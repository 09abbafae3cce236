import SqlWire.Proofs.Ended.Sealed
import SqlWire.Proofs.Ended.Session

/-!
# Lines of new sessions

Opening a session forgets none of the earlier ones (`Grows`), and the line of the new session is tied:
the link is attached as soon as the handshake is done (`tied_connect`).
-/

namespace SqlWire

open Net (Env Link World)

variable {α : Type} {env : Env}

/-! ## Worlds that grow -/

instance : IsPreorder World fun w w' => w.links.size ≤ w'.links.size where
  refl _ := Nat.le_refl _
  trans _ _ _ := Nat.le_trans

/-- Whatever its end, the run forgets no connection. -/
abbrev Grows (run : EStateM Error World α) : Prop :=
  Along (fun w w' => w.links.size ≤ w'.links.size) run

theorem grows_beginStep (discreet : Discreet env) : Grows (World.beginStep env) := fun w =>
  (Line.course_beginStep (.unlinked w)).spec discreet |>.2.1

namespace Exchange

/-! ## The handshake -/

theorem follows_turn {machine : Handshake.Machine} {packet : Bytes} :
    Follows env id (turn env machine packet) := by
  have note (calls : Auth.GssapiCalls) : Follows env id (noteCalls calls) :=
    .modify fun line => .single (.aside rfl rfl rfl rfl)
  refine .bind .get fun line => ?_
  dsimp only
  split
  · exact .bind (note _) fun _ => .throw _
  · refine .bind (note _) fun _ => ?_
    unfold perform
    split
    · exact .pure _
    · exact .pure _
    · exact .bind Line.follows_writePacket fun _ => .pure _
    · exact .bind Line.follows_writePacket fun _ line => .single .closed

theorem follows_converse {machine : Handshake.Machine} {packet : Bytes} :
    Follows env id (converse env machine packet) := by
  intro line
  fun_induction converse env machine packet line with
  | case1 machine packet line e line' turned => exact follows_turn.result turned
  | case2 machine packet line next line' turned => exact follows_turn.result turned
  | case3 machine packet line next line₁ turned e line' read =>
    exact (follows_turn.result turned).trans (Line.follows_readPacket.result read)
  | case4 machine packet line next line₁ turned payload line₂ read ih =>
    exact ((follows_turn.result turned).trans (Line.follows_readPacket.result read)).trans ih

theorem grows_dial (discreet : Discreet env) : Grows (Link.dial env) := by
  intro w
  unfold Link.dial
  split
  · exact Nat.le_refl _
  · split
    · next began => exact (grows_beginStep discreet).result began
    · next w₁ began =>
      have grown : w.links.size ≤ w₁.links.size := (grows_beginStep discreet).result began
      dsimp only [Link.accept]
      split <;> simpa [EStateM.Result.state] using Nat.le_succ_of_le grown

/-- A new link is the last one. -/
theorem id_dial {w w' : World} {link : Link} (h : Link.dial env w = .ok link w') :
    link.id < w'.links.size := by
  unfold Link.dial at h
  split at h
  · cases h
  · split at h
    · cases h
    · dsimp only [Link.accept, Link.setTimeout] at h
      split at h
      · cases h
      · next link' set =>
        cases h
        split at set
        · cases set
        · cases set
          simp

theorem grows_findCredential : Grows (findCredential env) := by
  intro w
  unfold findCredential
  split
  · exact Nat.le_refl _
  · split <;> exact Nat.le_refl _

/-- A handshake keeps to its link. -/
theorem converse_spec (discreet : Discreet env) {machine : Handshake.Machine} {link : Link} {w : World}
    {r : EStateM.Result Error Line Handshake.Machine}
    (eq : converse env machine [] ⟨.new link, w⟩ = r) :
    (∀ id, r.state.linkId = some id → id = link.id) ∧
      w.links.size ≤ r.state.world.links.size := by
  have course : Line.Course env ⟨.new link, w⟩ r.state := follows_converse.result eq
  obtain ⟨held, size, _⟩ := course.spec discreet
  exact ⟨fun id now => (Option.some_inj.mp (held id now)).symm, size⟩

theorem grows_openSession (discreet : Discreet env) : Grows (openSession env) := by
  refine .bind (grows_dial discreet) fun link => .bind grows_findCredential fun credential w => ?_
  have given_up (line : Line) (size : w.links.size ≤ line.world.links.size) :
      w.links.size ≤ line.close.world.links.size := by
    rw [Line.size_close]
    exact size
  dsimp only
  split
  · next talked => exact given_up _ (converse_spec discreet talked).2
  · next line talked =>
    have size := (converse_spec discreet talked).2
    split
    · exact given_up line size
    · exact size

/-- The channel of a new session is over one of the links. -/
theorem id_openSession (discreet : Discreet env) {w w' : World} {channel : Channel}
    {outcome : Handshake.Outcome} (h : openSession env w = .ok (channel, outcome) w') :
    ∀ id, channel.link.map (·.id) = some id → id < w'.links.size := by
  obtain ⟨link, w₁, dialed, h⟩ := EStateM.ok_of_bind h
  obtain ⟨credential, w₂, found, h⟩ := EStateM.ok_of_bind h
  dsimp only at h
  have listed : link.id < w₂.links.size :=
    Nat.lt_of_lt_of_le (id_dial dialed) (grows_findCredential.result found)
  split at h
  · cases h
  · next line talked =>
    obtain ⟨held, size⟩ := converse_spec discreet talked
    split at h
    · cases h
    · cases h
      intro id now
      have same : id = link.id := held id (by split at now <;> exact now)
      rw [same]
      exact Nat.lt_of_lt_of_le listed size

/-! ## Connecting -/

theorem grows_withFreshCredential {run : EStateM Error World α} (h : Grows run) :
    Grows (withFreshCredential env run) := by
  refine .bind h.attempt fun result => ?_
  split
  · exact .pure _
  · split
    · exact .throw _
    · split
      · exact .bind (fun w => Nat.le_refl _) fun _ => h
      · exact .throw _

/-- The first attempt goes well, or one more with a fresh credential. -/
theorem cases_withFreshCredential {run : EStateM Error World α} {w w' : World} {a : α}
    (h : withFreshCredential env run w = .ok a w') : run w = .ok a w' ∨
      ∃ e w₁ source, run w = .error e w₁ ∧ env.opts.credentialSource = some source ∧
        run { w₁ with credentials := source.clear w₁.credentials } = .ok a w' := by
  unfold withFreshCredential at h
  cases eq : run w with
  | ok b w₁ =>
    rw [EStateM.bind_of_ok (EStateM.attempt_of_ok eq)] at h
    cases h
    exact .inl rfl
  | error e w₁ =>
    rw [EStateM.bind_of_ok (EStateM.attempt_of_error eq)] at h
    cases fetches : env.opts.credentialSource with
    | none =>
      simp only [fetches] at h
      cases h
    | some source =>
      simp only [fetches] at h
      split at h
      · exact .inr ⟨e, w₁, source, rfl, rfl, h⟩
      · cases h

/-- With a fresh credential or without, it is the run that gives the result. -/
theorem ok_of_withFreshCredential {run : EStateM Error World α} {w w' : World} {a : α}
    (h : withFreshCredential env run w = .ok a w') : ∃ w₀, run w₀ = .ok a w' := by
  rcases cases_withFreshCredential h with opened | ⟨_, _, _, _, _, opened⟩ <;> exact ⟨_, opened⟩

theorem grows_setUpSession (discreet : Discreet env) {channel : Channel} {ctx : Session.Context} :
    Grows (setUpSession env channel ctx) := by
  intro w
  unfold setUpSession
  split
  · next c ready => exact ((stays_setUp.result ready).spec discreet).2.1
  · next e c failed =>
    refine Nat.le_trans ((stays_setUp.result failed).spec discreet).2.1 (Nat.le_of_eq ?_)
    exact (Line.size_close c.line).symm

theorem grows_connect (discreet : Discreet env) {wantSetUp : Bool} :
    Grows (connect env wantSetUp) := by
  refine .bind (grows_withFreshCredential (grows_openSession discreet)) fun _ => ?_
  refine .bind (fun w => Nat.le_refl _) fun _ => ?_
  dsimp only
  split
  · exact grows_setUpSession discreet
  · exact .pure _

/-- Whoever ends a call on a new session shuts its link down. -/
theorem tied_connect (discreet : Discreet env) {wantSetUp : Bool} {w w' : World}
    {channel : Channel} {ctx : Session.Context} {journal : Journal}
    (h : connect env wantSetUp w = .ok (channel, ctx, journal) w') : Line.Tied ⟨channel, w'⟩ := by
  obtain ⟨⟨channel', outcome⟩, w₁, opened, h⟩ := EStateM.ok_of_bind h
  obtain ⟨w₀, opened⟩ := ok_of_withFreshCredential opened
  obtain ⟨_, _, attached, h⟩ := EStateM.ok_of_bind h
  cases attached
  have tied : Line.Tied ⟨channel', w₁.attach (channel'.link.map (·.id)) outcome.threadId⟩ :=
    fun id held => ⟨held, id_openSession discreet opened id held⟩
  cases wantSetUp with
  | false =>
    cases h
    exact tied
  | true =>
    dsimp only at h
    rw [if_pos rfl] at h
    unfold setUpSession at h
    split at h
    · next c ready =>
      cases h
      exact (stays_setUp.result ready).tied discreet tied
    · cases h

end Exchange

end SqlWire
