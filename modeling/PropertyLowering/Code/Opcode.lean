/-!
Operation codes of the stack machine, one byte each.

Calls pop their arguments and, for methods, the receiver beneath them; they push the result if
there is one. Storing into a local pops.
-/

namespace PropertyLowering

inductive Opcode where
  | constant
  | constantWide
  | pushNull
  | pushZero
  | pushOne
  | pop
  | getLocal
  | setLocal
  | getLocalWide
  | setLocalWide
  | getStatic
  | call
  | callMethod
  | callGeneric
  | callMethodGeneric
  deriving DecidableEq, Repr

namespace Opcode

/-- The operation codes in the order of their bytes. -/
def all : List Opcode :=
  [constant, constantWide, pushNull, pushZero, pushOne, pop, getLocal, setLocal, getLocalWide,
    setLocalWide, getStatic, call, callMethod, callGeneric, callMethodGeneric]

def byte : Opcode → UInt8
  | constant => 0
  | constantWide => 1
  | pushNull => 2
  | pushZero => 3
  | pushOne => 4
  | pop => 5
  | getLocal => 6
  | setLocal => 7
  | getLocalWide => 8
  | setLocalWide => 9
  | getStatic => 10
  | call => 11
  | callMethod => 12
  | callGeneric => 13
  | callMethodGeneric => 14

def ofByte? (b : UInt8) : Option Opcode :=
  all[b.toNat]?

/-- The number of operand bytes that follow. Wide operands have two, calls add a count. -/
def operandSize : Opcode → Nat
  | pushNull | pushZero | pushOne | pop => 0
  | constant | getLocal | setLocal => 1
  | constantWide | getLocalWide | setLocalWide | getStatic => 2
  | call | callMethod | callGeneric | callMethodGeneric => 3

def name : Opcode → String
  | constant => "CONSTANT"
  | constantWide => "CONSTANT_WIDE"
  | pushNull => "PUSH_NULL"
  | pushZero => "PUSH_ZERO"
  | pushOne => "PUSH_ONE"
  | pop => "POP"
  | getLocal => "GET_LOCAL"
  | setLocal => "SET_LOCAL"
  | getLocalWide => "GET_LOCAL_WIDE"
  | setLocalWide => "SET_LOCAL_WIDE"
  | getStatic => "GET_STATIC"
  | call => "CALL"
  | callMethod => "CALL_METHOD"
  | callGeneric => "CALL_GENERIC"
  | callMethodGeneric => "CALL_METHOD_GENERIC"

@[simp] theorem ofByte?_byte (op : Opcode) : ofByte? op.byte = some op := by
  cases op <;> rfl

end Opcode

end PropertyLowering
