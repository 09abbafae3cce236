/-!
# Column types

The type codes of column definitions and of statement parameters.
-/

namespace SqlWire

/-- The type of a column or of a parameter. -/
inductive ColumnType where
  | decimal | tiny | short | long | float | double | null | timestamp | longLong | int24
  | date | time | dateTime | year | newDate | varChar | bit | json | newDecimal
  | enumeration | set | tinyBlob | mediumBlob | longBlob | blob | varString | string
  | geometry
  deriving DecidableEq, Repr

namespace ColumnType

def code : ColumnType → UInt8
  | decimal => 0x00
  | tiny => 0x01
  | short => 0x02
  | long => 0x03
  | float => 0x04
  | double => 0x05
  | null => 0x06
  | timestamp => 0x07
  | longLong => 0x08
  | int24 => 0x09
  | date => 0x0a
  | time => 0x0b
  | dateTime => 0x0c
  | year => 0x0d
  | newDate => 0x0e
  | varChar => 0x0f
  | bit => 0x10
  | json => 0xf5
  | newDecimal => 0xf6
  | enumeration => 0xf7
  | set => 0xf8
  | tinyBlob => 0xf9
  | mediumBlob => 0xfa
  | longBlob => 0xfb
  | blob => 0xfc
  | varString => 0xfd
  | string => 0xfe
  | geometry => 0xff

def ofCode? : UInt8 → Option ColumnType
  | 0x00 => some decimal
  | 0x01 => some tiny
  | 0x02 => some short
  | 0x03 => some long
  | 0x04 => some float
  | 0x05 => some double
  | 0x06 => some null
  | 0x07 => some timestamp
  | 0x08 => some longLong
  | 0x09 => some int24
  | 0x0a => some date
  | 0x0b => some time
  | 0x0c => some dateTime
  | 0x0d => some year
  | 0x0e => some newDate
  | 0x0f => some varChar
  | 0x10 => some bit
  | 0xf5 => some json
  | 0xf6 => some newDecimal
  | 0xf7 => some enumeration
  | 0xf8 => some set
  | 0xf9 => some tinyBlob
  | 0xfa => some mediumBlob
  | 0xfb => some longBlob
  | 0xfc => some blob
  | 0xfd => some varString
  | 0xfe => some string
  | 0xff => some geometry
  | _ => none

/-- The name of a type in the protocol's documents. -/
def name : ColumnType → String
  | decimal => "MYSQL_TYPE_DECIMAL"
  | tiny => "MYSQL_TYPE_TINY"
  | short => "MYSQL_TYPE_SHORT"
  | long => "MYSQL_TYPE_LONG"
  | float => "MYSQL_TYPE_FLOAT"
  | double => "MYSQL_TYPE_DOUBLE"
  | null => "MYSQL_TYPE_NULL"
  | timestamp => "MYSQL_TYPE_TIMESTAMP"
  | longLong => "MYSQL_TYPE_LONGLONG"
  | int24 => "MYSQL_TYPE_INT24"
  | date => "MYSQL_TYPE_DATE"
  | time => "MYSQL_TYPE_TIME"
  | dateTime => "MYSQL_TYPE_DATETIME"
  | year => "MYSQL_TYPE_YEAR"
  | newDate => "MYSQL_TYPE_NEWDATE"
  | varChar => "MYSQL_TYPE_VARCHAR"
  | bit => "MYSQL_TYPE_BIT"
  | json => "MYSQL_TYPE_JSON"
  | newDecimal => "MYSQL_TYPE_NEWDECIMAL"
  | enumeration => "MYSQL_TYPE_ENUM"
  | set => "MYSQL_TYPE_SET"
  | tinyBlob => "MYSQL_TYPE_TINY_BLOB"
  | mediumBlob => "MYSQL_TYPE_MEDIUM_BLOB"
  | longBlob => "MYSQL_TYPE_LONG_BLOB"
  | blob => "MYSQL_TYPE_BLOB"
  | varString => "MYSQL_TYPE_VAR_STRING"
  | string => "MYSQL_TYPE_STRING"
  | geometry => "MYSQL_TYPE_GEOMETRY"

end ColumnType

end SqlWire
