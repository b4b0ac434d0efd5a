import SnippetGrader.Builtin.Convert
import SnippetGrader.Builtin.Sequence

/-!
# Calling the functions that every program has

`Builtin.invoke` binds the arguments of a call to the parameters of a function and computes its
result.
-/

namespace SnippetGrader.Builtin

open Run

/-- The parameters of the functions that have named ones. -/
def signature : Builtin → Signature
  | len => { name := "_len", required := ["value"] }
  | str => { name := "_str", optional := ["value"] }
  | list => { name := "_list", optional := ["value"] }
  | int => { name := "_int", optional := ["value", "base"] }
  | float => { name := "_float", optional := ["value"] }
  | bool => { name := "_bool", optional := ["value"] }
  | any => { name := "_any", required := ["items"] }
  | all => { name := "_all", required := ["items"] }
  | range => { name := "_range", variadic := true }
  | enumerate => { name := "_enumerate", required := ["items"], optional := ["start"] }
  | zip => { name := "_zip", variadic := true }
  | sorted => { name := "_sorted", required := ["items"], optional := ["reverse", "key"] }
  | reversed => { name := "_reversed", required := ["items"] }
  | map => { name := "_map", required := ["fn", "items"] }
  | filter => { name := "_filter", required := ["fn", "items"] }
  | f => { name := f.name, variadic := true }

/-- Calls a function whose arguments are bound to its signature: `arg i d` is the argument for the
parameter at position `i`, or `d`, and `rest` are further arguments. -/
def invokeBound (e : Engine) (f : Builtin) (arg : Nat → Value → Value) (rest : List Value) :
    Run Value := do
  match f with
  | len => Sequence.len (arg 0 .none)
  | str => return .str (← display (arg 0 (.str "")))
  | list => Convert.list (arg 0 .none)
  | int => ofExcept (Convert.int (arg 0 (.int 0)) (arg 1 .none))
  | float => Convert.float (arg 0 (.float 0))
  | bool => return .bool (← truthy (arg 0 (.bool false)))
  | any => Sequence.any (arg 0 .none)
  | all => Sequence.all (arg 0 .none)
  | range => Sequence.range rest
  | enumerate => Sequence.enumerate (arg 0 .none) (arg 1 (.int 0))
  | zip => Sequence.zip rest
  | sorted => Sequence.sorted e (arg 0 .none) (arg 1 (.bool false)) (arg 2 .none)
  | reversed => Sequence.reversed (arg 0 .none)
  | map => Sequence.map e (arg 0 .none) (arg 1 .none)
  | filter => Sequence.filter e (arg 0 .none) (arg 1 .none)
  | _ => return .none

def sumSlots : Slots := { name := "sum", params := ["iterable", "start"], unnamed := 1, required := 1 }

def roundSlots : Slots := { name := "round", params := ["number", "ndigits"], required := 1 }

def invoke (e : Engine) (f : Builtin) (args : List Value) (keywords : Keywords) : Run Value := do
  match f with
  | ord => ofExcept (do Convert.ord (← exactlyOne "ord" args keywords))
  | chr => ofExcept (do Convert.chr (← exactlyOne "chr" args keywords))
  | abs => computed (do Convert.abs (← exactlyOne "abs" args keywords))
  | sum =>
    let bound ← ofExcept (sumSlots.bind args keywords)
    Sequence.sum (argumentAt bound 0 .none) (argumentAt bound 1 (.int 0))
  | min => Sequence.extreme e .least args keywords
  | max => Sequence.extreme e .greatest args keywords
  | round =>
    let bound ← ofExcept (roundSlots.bind args keywords)
    computed (Convert.round (argumentAt bound 0 .none) (argumentAt bound 1 .none))
  | f =>
    let (bound, rest) ← ofExcept (f.signature.bind args keywords)
    invokeBound e f (argumentAt bound) rest

end SnippetGrader.Builtin
