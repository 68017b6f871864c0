/-!
# Wrapped errors

Go signals both the end of a stream and its failure through `error` values. A
callee wraps the error it met with `fmt.Errorf("…: %w", err)`, a caller asks with
`errors.Is` whether some sentinel is anywhere below. Only two things about an
error are therefore observable: its text and the sentinels its chain passes
through.
-/

namespace Go

/-- An `error` value over sentinels `σ`. -/
structure Err (σ : Type) where
  /-- `err.Error()`. -/
  text : String
  /-- The sentinels met when the chain is unwrapped, outermost first. -/
  chain : List σ
deriving DecidableEq, Repr

namespace Err

variable {σ : Type} [DecidableEq σ]

/-- `errors.New(text)`, compared by nobody. -/
def new (text : String) : Err σ := ⟨text, []⟩

/-- A sentinel itself. -/
def sentinel (text : String) (s : σ) : Err σ := ⟨text, [s]⟩

/-- `fmt.Errorf("context: %w", err)`. -/
def wrap (context : String) (err : Err σ) : Err σ := ⟨context ++ ": " ++ err.text, err.chain⟩

/-- `errors.Is(err, s)`. -/
def is (err : Err σ) (s : σ) : Bool := err.chain.contains s

end Err

end Go
