/-!
# The host

What a run finds around it: the clock, the room that there is, and the places at which things are
kept. A run looks at its host and cannot change it. Nothing is assumed of a host: what is proved of
runs holds for every clock and for every amount of room. The values that stand here by default are
the ones with which programs are tried out.
-/

namespace SnippetGrader

/-- What the clock shows during a run, in seconds. It may stand still, and it may be set back. -/
structure Clock where
  /-- When the run starts. -/
  start : Float := 1700000000.0
  /-- When the `n`-th statement of the run is charged. -/
  atStatement : (n : Nat) → Float := fun _ => 1700000000.001
  /-- What a program reads that has looked at the clock `n` times before. -/
  reading : (n : Nat) → Float := fun _ => 1700000000.0

/-- Whether a run that may take so many seconds has taken longer when its `n`-th statement is
charged. -/
def Clock.Expired (c : Clock) (seconds : Float) (n : Nat) : Prop :=
  c.start + seconds < c.atStatement n

instance (c : Clock) (seconds : Float) (n : Nat) : Decidable (c.Expired seconds n) :=
  inferInstanceAs (Decidable (_ < _))

/-- What a program can come upon. -/
structure Surroundings where
  clock : Clock := {}
  /-- How many lists may be nested in one that is written or compared before the stack is full. -/
  nesting : Nat := 900
  /-- How many bytes the memory holds. -/
  memory : Nat := 4294967296
  /-- The address of a function of the host, as it is written. -/
  address : (name : String) → String := fun _ => "0x7f0000000000"

/-- The text of a function of the host that is not a part of its kernel. -/
def Surroundings.functionText (s : Surroundings) (name : String) : String :=
  "<function _" ++ name ++ " at " ++ s.address name ++ ">"

/-- What a program runs on. -/
structure Host extends Surroundings where
  /-- How many evaluations, calls and blocks may be nested before the stack is full. -/
  levels : Nat := 480

end SnippetGrader
