import OpenVixDiskLib.Base.Procedure

/-!
# The exceptions of the client

Every exception the modelled code raises, catches or lets through, by its Python class and with its
message. `NfcProtocolError` is a `ConnectionError`, and so an `OSError`; a socket timeout is an
`OSError` too; a `UnicodeEncodeError` is a `ValueError`. `external` stands for any other
`Exception` that code outside the repository raises.
-/

set_option autoImplicit false
set_option relaxedAutoImplicit false

namespace OpenVixDiskLib

/-- A byte string. -/
abbrev Bytes := List UInt8

/-- The classes of exceptions that occur. -/
inductive ErrorKind
  | valueError
  | unicodeEncodeError
  | runtimeError
  | typeError
  | notImplementedError
  | structError
  | assertionError
  | osError
  | timeoutError
  | connectionError
  | nfcProtocolError
  | external
deriving DecidableEq, Repr

/-- A raised exception. -/
structure PyError where
  kind : ErrorKind
  message : String
deriving DecidableEq, Repr

namespace PyError

/-- What `except ValueError` catches. -/
def isValueError (error : PyError) : Bool :=
  error.kind = .valueError ∨ error.kind = .unicodeEncodeError

/-- What `except OSError` catches. -/
def isOsError (error : PyError) : Bool :=
  error.kind = .osError ∨ error.kind = .timeoutError ∨ error.kind = .connectionError ∨
    error.kind = .nfcProtocolError

/-- What `except Exception` catches: every error of the model is an `Exception`. -/
def isException (_ : PyError) : Bool :=
  true

end PyError

/-- `NfcProtocolError`: an NFC message is malformed or reports failure. -/
def nfcProtocolError (message : String) : PyError :=
  ⟨.nfcProtocolError, message⟩

def valueError (message : String) : PyError :=
  ⟨.valueError, message⟩

def connectionError (message : String) : PyError :=
  ⟨.connectionError, message⟩

/-- The hexadecimal numeral of a number, the format `x`. -/
def hexNumeral (value : ℕ) : String :=
  String.ofList (Nat.toDigits 16 value)

/-- `bytes.hex()`: two digits for each byte. -/
def hexBytes (bytes : Bytes) : String :=
  String.ofList (bytes.flatMap fun byte ↦
    [Nat.digitChar (byte.toNat / 16), Nat.digitChar (byte.toNat % 16)])

/-- A procedure of the client, on a state `σ`. -/
abbrev Py (σ α : Type) := Proc σ PyError α

end OpenVixDiskLib
