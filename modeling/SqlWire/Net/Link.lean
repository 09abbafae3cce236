import SqlWire.Net.World

/-!
# Links

A link is the client's end of a socket. `dial` opens one, `send` and `take` use it. A read that
finds too few bytes takes those that are left and fails; before that, a silent server makes it wait
for whatever comes first: a call of another thread, the deadline of the statement or the timeout of
the socket.
-/

namespace SqlWire.Net

/-- The client's end of a socket. -/
structure Link where
  /-- The number of the connection. -/
  id : Nat
  /-- Everything that the server sends. -/
  inbound : ByteArray
  /-- How much of it was read. -/
  position : Nat
  /-- After `inbound` the server is silent. -/
  stalls : Bool
  /-- How long a read waits, in milliseconds. -/
  timeout : Option Nat

namespace Link

/-- Bytes that are left to be read. -/
def remaining (link : Link) : Nat := link.inbound.size - link.position

def setTimeout (link : Link) (timeout : Option Nat) : Except IoFault Link :=
  if timeout == some 0 then .error .zeroTimeout else .ok { link with timeout }

/-- The first path of a socket that is too long. -/
def pathLimit : Nat := 108

def unanswered : Place → IoFault
  | .missing fault => fault
  | .directory | .file _ | .socket => .refused

/-- Why the address of the options cannot be reached. A timeout of zero is refused once a network
was found. -/
def unreachable? (env : Env) : Option Error :=
  let failed (fault : IoFault) : Option Error :=
    some (.connection (.socket env.opts.target) (some (.io fault)))
  match env.opts.socket with
  | some path =>
    if path.toList.contains '\x00' then failed .nulInPath
    else if pathLimit ≤ path.utf8ByteSize then failed .pathTooLong
    else if env.listening then none
    else if path == "" then failed .invalidArgument
    else failed (unanswered (env.files path))
  | none =>
    if env.opts.host == "" then some (.usage .noHost)
    else if env.opts.host.toList.contains '\x00' then failed .nulInName
    else if !env.listening then failed .networkUnreachable
    else if env.opts.connectTimeout == some 0 then failed .zeroTimeout
    else none

def accept (w : World) : Link × World :=
  let script := w.servers.headD ⟨ByteArray.empty, false⟩
  (⟨w.links.size, script.bytes, 0, script.stalls, none⟩,
    { w with servers := w.servers.tail, links := w.links.push ⟨ByteArray.empty, false⟩ })

/-- Opens a link to the address of the options. -/
def dial (env : Env) : EStateM Error World Link := fun w =>
  match unreachable? env with
  | some e => .error e w
  | none =>
    match World.beginStep env w with
    | .error e w => .error (.connection (.socket env.opts.target) (some e)) w
    | .ok () w =>
      let (link, w) := accept w
      match link.setTimeout env.opts.socketTimeout with
      | .error fault => .error (.io fault) w
      | .ok link => .ok link w

def send (env : Env) (link : Link) (bytes : ByteArray) : EStateM Error World Unit := fun w =>
  match World.beginStep env w with
  | .error e w => .error e w
  | .ok () w =>
    if w.isDown link.id then .error (.io .brokenPipe) w
    else .ok () (w.addSent link.id bytes)

/-- The end of a wait for a socket's own timeout. -/
def giveUp (link : Link) (since : Nat) (w : World) : Error × World :=
  match link.timeout with
  | some timeout => (.io .timedOut, { w with clock := max w.clock (since + timeout) })
  | none => (.io .endlessWait, w)

/-- The world when a read has begun to wait for a silent server. -/
def awaited (env : Env) (w : World) : World :=
  match env.whenBlocked with
  | some how => w.interrupted env how
  | none => w

/-- The end of a read for which too few bytes are left. -/
def starve (env : Env) (link : Link) (w : World) : Error × World :=
  let since := w.clock
  let ended (w : World) : Bool := !link.stalls || w.isDown link.id
  if ended w then (.io .endOfStream, w)
  else
    let w := awaited env w
    if ended w then (.io .endOfStream, w)
    else match w.deadlines.next? with
      | none => link.giveUp since w
      | some deadline =>
        if link.timeout.any (since + · < deadline) then link.giveUp since w
        else
          let w := w.expired env deadline
          if ended w then (.io .endOfStream, w) else link.giveUp since w

/-- Takes the next `n` bytes. The link is given back as the read left it. -/
def take (env : Env) (n : Nat) : EStateM Error (Link × World) ByteArray := fun (link, w) =>
  if n == 0 then .ok ByteArray.empty (link, w)
  else match World.beginStep env w with
    | .error e w => .error e (link, w)
    | .ok () w =>
      if n ≤ link.remaining then
        .ok (link.inbound.extract link.position (link.position + n))
          ({ link with position := link.position + n }, w)
      else
        let (e, w) := link.starve env w
        .error e ({ link with position := link.inbound.size }, w)

/-- Taking bytes uses them up. -/
theorem remaining_take {env : Env} {n : Nat} {link link' : Link} {w w' : World} {bytes : ByteArray}
    (h : take env n (link, w) = .ok bytes (link', w')) : link'.remaining + n = link.remaining := by
  dsimp only [take] at h
  split at h
  · next zero =>
    injection h with _ hs
    injection hs with hl
    subst hl
    simp_all
  · split at h
    · cases h
    · split at h
      · next enough =>
        injection h with _ hs
        injection hs with hl
        subst hl
        simp only [remaining] at enough ⊢
        omega
      · cases h

/-- No more and no fewer bytes are taken than were asked for. -/
theorem size_take {env : Env} {n : Nat} {link link' : Link} {w w' : World} {bytes : ByteArray}
    (h : take env n (link, w) = .ok bytes (link', w')) : bytes.size = n := by
  dsimp only [take] at h
  split at h
  · next zero =>
    injection h with hb _
    subst hb
    simp_all
  · split at h
    · cases h
    · split at h
      · next enough =>
        injection h with hb _
        subst hb
        simp only [remaining] at enough
        simp only [ByteArray.size_extract]
        omega
      · cases h

end Link

end SqlWire.Net
