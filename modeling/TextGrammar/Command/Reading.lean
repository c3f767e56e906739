/-!
# Reading inputs

What a command does may depend on files and on the standard input. A reading asks for them one
after the other, so that the same command can be run on a disk or on contents held in memory.
-/
namespace TextGrammar.Command

inductive Input where
  | file (path : String)
  | stdin
deriving DecidableEq, Repr

inductive ReadError where
  | notFound
  | notDirectory
  | isDirectory
  /-- The bytes are not the UTF-8 form of a text. -/
  | notText
  | other (message : String)
deriving DecidableEq, Repr

def ReadError.message : ReadError → String
  | .notFound => "No such file or directory (os error 2)"
  | .notDirectory => "Not a directory (os error 20)"
  | .isDirectory => "Is a directory (os error 21)"
  | .notText => "stream did not contain valid UTF-8"
  | .other message => message

def decodeText (bytes : ByteArray) : Except ReadError String :=
  match String.fromUTF8? bytes with
  | some text => .ok text
  | none => .error .notText

inductive Reading (α : Type) where
  | done (result : α)
  | read (input : Input) (next : Except ReadError String → Reading α)

namespace Reading

variable {α β : Type}

def map (f : α → β) : Reading α → Reading β
  | .done result => .done (f result)
  | .read input next => .read input fun content => (next content).map f

def run (contents : Input → Except ReadError String) : Reading α → α
  | .done result => result
  | .read input next => (next (contents input)).run contents

@[simp] theorem run_map (contents : Input → Except ReadError String) (f : α → β)
    (reading : Reading α) : (reading.map f).run contents = f (reading.run contents) := by
  induction reading with
  | done result => rfl
  | read input next ih => exact ih (contents input)

end Reading

end TextGrammar.Command
