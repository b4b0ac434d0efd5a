import SnippetGrader.Grading.Service

/-!
# The limits that a client gets

`capLimits` grants each limit that the settings ask for, within its bounds, and takes the usual one
where it cannot read what they ask for. There is one kind of request on which it gives up instead:
a number that is too large to be converted.
-/

namespace SnippetGrader

/-! ## The order of floating point numbers -/

namespace Number

open Float.Model (UnpackedFloat)

theorem unpacked_compare_swap (a b : UnpackedFloat) :
    b.compare a = (a.compare b).map Ordering.swap := by
  have hfinite (e d : Int) (m n : Nat) : (compare d e).then (compare n m) =
      ((compare e d).then (compare m n)).swap := by
    rw [Ordering.swap_then, ← Std.OrientedCmp.eq_swap, ← Std.OrientedCmp.eq_swap]
  rcases a with (_ | _) | _ | _ | ⟨_ | _, m, e, _⟩ <;>
    rcases b with (_ | _) | _ | _ | ⟨_ | _, n, d, _⟩ <;> try rfl
  · exact congrArg (fun o => some o.swap) (hfinite e d m n)
  · exact congrArg some (hfinite e d m n)

/-- What can be compared with something can be compared with itself and all else of this kind. -/
theorem unpacked_compare_some {a a' b b' : UnpackedFloat} {o o' : Ordering}
    (h : a.compare a' = some o) (h' : b.compare b' = some o') : ∃ o, a.compare b = some o := by
  rcases a with (_ | _) | _ | _ | ⟨_ | _, m, e, _⟩ <;>
    rcases b with (_ | _) | _ | _ | ⟨_ | _, n, d, _⟩ <;> first | exact ⟨_, rfl⟩ | contradiction

variable {x y z : Float}

theorem compare_swap (x y : Float) :
    y.toModel.compare x.toModel = (x.toModel.compare y.toModel).map Ordering.swap :=
  unpacked_compare_swap _ _

theorem lt_iff_compare : x < y ↔ x.toModel.compare y.toModel = some .lt := by
  change decide (x.toModel < y.toModel) = true ↔ _
  rw [decide_eq_true_iff]
  exact beq_iff_eq

theorem beq_iff_compare : x == y ↔ x.toModel.compare y.toModel = some .eq := by
  change (x.toModel.compare y.toModel == some .eq) = true ↔ _
  exact beq_iff_eq

theorem le_iff_lt_or_beq : x ≤ y ↔ x < y ∨ x == y := by
  have hle : x ≤ y ↔ (x.toModel.compare y.toModel).any (·.isLE) = true := by
    change decide (x.toModel ≤ y.toModel) = true ↔ _
    rw [decide_eq_true_iff]
    rfl
  rw [hle, lt_iff_compare, beq_iff_compare]
  cases x.toModel.compare y.toModel with
  | none => simp
  | some o => cases o <;> simp

theorem not_lt_of_le (h : x ≤ y) : ¬ y < x := by
  rw [le_iff_lt_or_beq, lt_iff_compare, beq_iff_compare] at h
  rw [lt_iff_compare, compare_swap]
  obtain h | h := h <;> simp [h]

/-- Numbers are in order one way or the other; `x` and `y` are numbers because they stand in some
order. -/
theorem le_of_not_lt (hx : z < x) (hy : y ≤ y) (h : ¬ y < x) : x ≤ y := by
  rw [lt_iff_compare] at hx h
  rw [le_iff_lt_or_beq, lt_iff_compare, beq_iff_compare] at hy ⊢
  have hxz : x.toModel.compare z.toModel = some .gt := by rw [compare_swap, hx]; rfl
  obtain ⟨o, ho⟩ : ∃ o, x.toModel.compare y.toModel = some o :=
    hy.elim (unpacked_compare_some hxz) (unpacked_compare_some hxz)
  rw [compare_swap, ho] at h
  cases o with
  | lt => exact .inl ho
  | eq => exact .inr ho
  | gt => exact absurd rfl h

/-- A number that stands in some order is equal to itself. -/
theorem compare_self {o : Ordering} (h : x.toModel.compare y.toModel = some o) :
    x.toModel.compare x.toModel = some .eq := by
  obtain ⟨o, ho⟩ : ∃ o, x.toModel.compare x.toModel = some o := unpacked_compare_some h h
  have hswap := compare_swap x x
  rw [ho] at hswap ⊢
  cases o with
  | eq => rfl
  | _ => contradiction

theorem beq_self (h : x ≤ y) : x == x := by
  rw [le_iff_lt_or_beq, lt_iff_compare, beq_iff_compare] at h
  exact beq_iff_compare.2 (h.elim compare_self compare_self)

theorem le_self_of_lt (h : z < x) : x ≤ x := by
  rw [lt_iff_compare] at h
  have hxz : x.toModel.compare z.toModel = some .gt := by rw [compare_swap, h]; rfl
  exact le_iff_lt_or_beq.2 (.inr (beq_iff_compare.2 (compare_self hxz)))

end Number

namespace Grading

open Number

/-! ## One limit -/

/-- A conversion gives up because a number is too large. -/
def Overflows {α : Type} (r : Except Failure α) : Prop :=
  ∃ f, r = .error f ∧ f.kind = "OverflowError"

/-- A limit `v` between its bounds that is what was asked for, if this could be read and lies there,
and the usual one if it could not be read. -/
structure Granted {α : Type} [LE α] [BEq α] (floor usual : α) (asked : Except Failure α) (v : α) :
    Prop where
  floor_le : floor ≤ v
  le_usual : v ≤ usual
  as_asked : ∀ a, asked = .ok a → floor ≤ a → a ≤ usual → v == a
  unread : ∀ f, asked = .error f → v = usual

/-- A way to bring a limit between its bounds. -/
structure Clamps {α : Type} [LE α] [BEq α] (floor usual : α) (clamp : α → α) : Prop where
  floor_le : ∀ a, floor ≤ clamp a
  le_usual : ∀ a, clamp a ≤ usual
  inside : ∀ a, floor ≤ a → a ≤ usual → clamp a == a
  usual : clamp usual = usual

theorem clamps_int {ceiling : Int} (h : 1 ≤ ceiling) :
    Clamps 1 ceiling fun n => max 1 (min n ceiling) where
  floor_le n := by omega
  le_usual n := by omega
  inside n hfloor hceiling := by
    rw [beq_iff_eq]
    omega
  usual := by omega

/-- The bounds of a time, as `capTime` applies them. -/
def clampTime (ceiling x : Float) : Float :=
  let y := if ceiling < x then ceiling else x
  if y > leastTime then y else leastTime

theorem clampTime_of_lt {ceiling x : Float} (h : leastTime < ceiling) (hx : ceiling < x) :
    clampTime ceiling x = ceiling := by
  simp only [clampTime, if_pos hx, gt_iff_lt, if_pos h]

theorem clampTime_of_not_lt {ceiling x : Float} (hx : ¬ ceiling < x) :
    clampTime ceiling x = if leastTime < x then x else leastTime := by
  simp only [clampTime, if_neg hx, gt_iff_lt]

theorem clamps_time {ceiling : Float} (h : leastTime < ceiling) :
    Clamps leastTime ceiling (clampTime ceiling) := by
  have hleast : leastTime ≤ ceiling := le_iff_lt_or_beq.2 (.inl h)
  have hceiling : ceiling ≤ ceiling := le_self_of_lt h
  have hself : ¬ ceiling < ceiling := not_lt_of_le hceiling
  refine ⟨fun x => ?_, fun x => ?_, fun x hfloor hle => ?_, ?_⟩
  · by_cases hx : ceiling < x
    · rw [clampTime_of_lt h hx]
      exact hleast
    · rw [clampTime_of_not_lt hx]
      split
      · next hx => exact le_iff_lt_or_beq.2 (.inl hx)
      · exact le_iff_lt_or_beq.2 (.inr (beq_self hleast))
  · by_cases hx : ceiling < x
    · rw [clampTime_of_lt h hx]
      exact hceiling
    · rw [clampTime_of_not_lt hx]
      split
      · next hnumber => exact le_of_not_lt hnumber hceiling hx
      · exact hleast
  · rw [clampTime_of_not_lt (not_lt_of_le hle)]
    split
    · exact beq_self hle
    · next hx => exact (le_iff_lt_or_beq.1 hfloor).resolve_left hx
  · rw [clampTime_of_not_lt hself, if_pos h]

/-- A request fails as a whole only if it asks for too large a number. -/
theorem requested_cases {α : Type} [LE α] [BEq α] {floor usual : α} {clamp : α → α}
    (hclamp : Clamps floor usual clamp) {asked : Except Failure α}
    (hkind : ∀ f, asked = .error f →
      f.kind = "TypeError" ∨ f.kind = "ValueError" ∨ f.kind = "OverflowError") :
    (Overflows asked ∧ ∃ f, clamp <$> requested usual asked = .error f ∧
        f.kind = "OverflowError") ∨
      ¬ Overflows asked ∧ ∃ v, clamp <$> requested usual asked = .ok v ∧
        Granted floor usual asked v := by
  cases asked with
  | ok a =>
    have hfits : ¬ Overflows (.ok a : Except Failure α) := fun ⟨f, hf, _⟩ => nomatch hf
    refine .inr ⟨hfits, clamp a, rfl, hclamp.floor_le a, hclamp.le_usual a, fun b hb => ?_,
      fun f hf => nomatch hf⟩
    cases hb
    exact hclamp.inside a
  | error f =>
    by_cases hf : f.kind = "OverflowError"
    · have hgiven : requested usual (.error f) = .error f := by simp [requested, hf]
      exact .inl ⟨⟨f, rfl, hf⟩, f, by rw [hgiven]; rfl, hf⟩
    · have hread : requested usual (.error f) = .ok usual := by
        obtain h | h | h := hkind f rfl
        · simp [requested, h]
        · simp [requested, h]
        · exact absurd h hf
      have hfits : ¬ Overflows (.error f : Except Failure α) := by
        rintro ⟨g, hg, h⟩
        cases hg
        exact hf h
      exact .inr ⟨hfits, clamp usual, by rw [hread]; rfl, hclamp.floor_le _, hclamp.le_usual _,
        fun b hb => (nomatch hb), fun _ _ => hclamp.usual⟩

/-! ## What settings ask for -/

def wholeLimits : List (String × (Limits → Int)) :=
  [("max_loop", Limits.maxLoop), ("max_call_depth", Limits.maxCallDepth),
   ("max_output_chars", Limits.maxOutputChars), ("max_steps", Limits.maxSteps)]

/-- What settings ask for under a name, as it is converted; without the name it is the usual limit. -/
def asked {α : Type} (settings : Settings) (name : String) (usual : α)
    (convert : Datum → Except Failure α) : Except Failure α :=
  ((settings.lookup name).map convert).getD (.ok usual)

theorem capInt_eq (settings : Settings) (name : String) (ceiling : Int) :
    capInt settings name ceiling =
      (fun n => max 1 (min n ceiling)) <$> requested ceiling (asked settings name ceiling Datum.toInt) := by
  unfold capInt asked
  cases settings.lookup name <;> rfl

theorem capTime_eq (settings : Settings) (name : String) (ceiling : Float) :
    capTime settings name ceiling =
      clampTime ceiling <$> requested ceiling (asked settings name ceiling Datum.toFloat) := by
  unfold capTime asked
  cases settings.lookup name <;> rfl

theorem kind_notInt (base : Int) (text : String) (e : IntError) :
    (Convert.notInt base text e).kind = "ValueError" := by
  cases e <;> rfl

/-- A datum is no whole number because of its type, because it is a text that names none, or because
it is an infinite number. -/
theorem toInt_error {d : Datum} {f : Failure} (h : d.toInt = .error f) :
    f.kind = "TypeError" ∨ f.kind = "ValueError" ∨ f.kind = "OverflowError" ∧
      ∃ x, d = .plain (.float x) ∧ truncate? x = none ∧ x.isNaN = false := by
  cases d with
  | plain v =>
    cases v with
    | str t =>
      have hvalue : ∃ e, Convert.notInt 10 t e = f := by
        unfold Datum.toInt Convert.toInt Convert.intOfString at h
        dsimp only at h
        cases hread : intOfText 10 t.toList with
        | ok n =>
          rw [hread] at h
          cases h
        | error e =>
          rw [hread] at h
          exact ⟨e, Except.error.inj h⟩
      obtain ⟨e, rfl⟩ := hvalue
      exact .inr (.inl (kind_notInt 10 t e))
    | float x =>
      unfold Datum.toInt Convert.toInt Convert.intOfFloat at h
      simp only [Num.ofValue?] at h
      cases hpart : truncate? x with
      | some n => simp [hpart] at h
      | none =>
        simp only [hpart] at h
        cases hx : x.isNaN with
        | true =>
          rw [hx, if_pos rfl] at h
          cases h
          exact .inr (.inl rfl)
        | false =>
          rw [hx, if_neg (by decide)] at h
          cases h
          exact .inr (.inr ⟨rfl, x, rfl, hpart, hx⟩)
    | nan n =>
      cases h
      exact .inr (.inl rfl)
    | bool b => cases h
    | int n => cases h
    | _ =>
      cases h
      exact .inl rfl
  | _ =>
    cases h
    exact .inl rfl

theorem toInt_infinite {x : Float} (hpart : truncate? x = none) (hx : x.isNaN = false) :
    Overflows (Datum.plain (.float x)).toInt := by
  refine ⟨.overflow "cannot convert float infinity to integer", ?_, rfl⟩
  simp only [Datum.toInt, Convert.toInt, Num.ofValue?, Convert.intOfFloat, hpart, hx,
    Bool.false_eq_true, if_false]

/-- A datum is no floating point number because of its type, because it is a text that names none,
or because it is too large a whole number. -/
theorem toFloat_error {d : Datum} {f : Failure} (h : d.toFloat = .error f) :
    f.kind = "TypeError" ∨ f.kind = "ValueError" ∨ f.kind = "OverflowError" ∧
      ∃ n, d = .plain (.int n) ∧ floatOfInt? n = none := by
  cases d with
  | plain v =>
    cases v with
    | str t =>
      unfold Datum.toFloat Convert.toFloat at h
      cases hread : floatOfText? t.toList with
      | some x => simp [hread] at h
      | none =>
        simp only [hread, Except.error.injEq] at h
        exact .inr (.inl (by rw [← h]; rfl))
    | int n =>
      unfold Datum.toFloat Convert.toFloat Num.toFloat at h
      simp only [Num.ofValue?] at h
      cases hfit : floatOfInt? n with
      | some x => simp [hfit] at h
      | none =>
        simp only [hfit, Except.error.injEq] at h
        exact .inr (.inr ⟨by rw [← h]; rfl, n, rfl, hfit⟩)
    | bool b => cases b <;> cases h
    | float x => cases h
    | nan n => cases h
    | _ =>
      cases h
      exact .inl rfl
  | _ =>
    cases h
    exact .inl rfl

theorem toFloat_oversized {n : Int} (h : floatOfInt? n = none) :
    Overflows (Datum.plain (.int n)).toFloat := by
  refine ⟨.overflow "int too large to convert to float", ?_, rfl⟩
  simp [Datum.toFloat, Convert.toFloat, Num.ofValue?, Num.toFloat, h]

theorem asked_error {α : Type} {settings : Settings} {name : String} {usual : α}
    {convert : Datum → Except Failure α} {f : Failure}
    (h : asked settings name usual convert = .error f) :
    ∃ d, settings.lookup name = some d ∧ convert d = .error f := by
  unfold asked at h
  cases hd : settings.lookup name with
  | none => simp [hd] at h
  | some d => exact ⟨d, rfl, by simpa [hd] using h⟩

theorem asked_of_lookup {α : Type} {settings : Settings} {name : String} {d : Datum}
    (h : settings.lookup name = some d) (usual : α) (convert : Datum → Except Failure α) :
    asked settings name usual convert = convert d := by
  rw [asked, h]
  rfl

/-! ## All limits -/

def usual : Limits := {}

/-- A whole number is asked for by an infinite one. -/
def AsksInfinite (settings : Settings) (name : String) : Prop :=
  ∃ x, settings.lookup name = some (.plain (.float x)) ∧ truncate? x = none ∧ x.isNaN = false

/-- The time is asked for by a whole number that is too large for a floating point number. -/
def AsksTooLong (settings : Settings) : Prop :=
  ∃ n, settings.lookup "max_time_s" = some (.plain (.int n)) ∧ floatOfInt? n = none

/-- Settings ask for a number that is too large to be converted. -/
def Oversized (settings : Settings) : Prop :=
  (∃ name ∈ wholeLimits.map Prod.fst, AsksInfinite settings name) ∨ AsksTooLong settings

/-- Limits that grant what settings ask for, as far as they can be read and within the usual
limits. -/
structure Grants (settings : Settings) (limits : Limits) : Prop where
  whole : ∀ p ∈ wholeLimits,
    Granted 1 (p.2 usual) (asked settings p.1 (p.2 usual) Datum.toInt) (p.2 limits)
  time : Granted leastTime usual.maxTime
    (asked settings "max_time_s" usual.maxTime Datum.toFloat) limits.maxTime

/-- Limits as settings. -/
def settingsOf (limits : Limits) : Settings :=
  wholeLimits.map (fun p => (p.1, .plain (.int (p.2 limits)))) ++
    [("max_time_s", .plain (.float limits.maxTime))]

theorem limitsOf_settingsOf (limits : Limits) : limitsOf (settingsOf limits) = .ok limits := rfl

section

variable (settings : Settings)

theorem overflows_asked_int (name : String) (n : Int) :
    Overflows (asked settings name n Datum.toInt) ↔ AsksInfinite settings name := by
  constructor
  · rintro ⟨f, hf, hkind⟩
    obtain ⟨d, hd, herror⟩ := asked_error hf
    obtain h | h | ⟨-, x, rfl, hx⟩ := toInt_error herror
    · rw [h] at hkind
      contradiction
    · rw [h] at hkind
      contradiction
    · exact ⟨x, hd, hx⟩
  · rintro ⟨x, hd, hpart, hx⟩
    rw [asked_of_lookup hd]
    exact toInt_infinite hpart hx

theorem overflows_asked_float (x : Float) :
    Overflows (asked settings "max_time_s" x Datum.toFloat) ↔ AsksTooLong settings := by
  constructor
  · rintro ⟨f, hf, hkind⟩
    obtain ⟨d, hd, herror⟩ := asked_error hf
    obtain h | h | ⟨-, n, rfl, hn⟩ := toFloat_error herror
    · rw [h] at hkind
      contradiction
    · rw [h] at hkind
      contradiction
    · exact ⟨n, hd, hn⟩
  · rintro ⟨n, hd, hn⟩
    rw [asked_of_lookup hd]
    exact toFloat_oversized hn

theorem capInt_cases (name : String) (ceiling : Int) (h : 1 ≤ ceiling) :
    (AsksInfinite settings name ∧ ∃ f, capInt settings name ceiling = .error f ∧
        f.kind = "OverflowError") ∨
      ¬ AsksInfinite settings name ∧ ∃ n, capInt settings name ceiling = .ok n ∧
        Granted 1 ceiling (asked settings name ceiling Datum.toInt) n := by
  rw [← overflows_asked_int settings name ceiling, capInt_eq]
  refine requested_cases (clamps_int h) fun f hf => ?_
  obtain ⟨d, -, herror⟩ := asked_error hf
  exact (toInt_error herror).imp id (Or.imp id And.left)

theorem capTime_cases (ceiling : Float) (h : leastTime < ceiling) :
    (AsksTooLong settings ∧ ∃ f, capTime settings "max_time_s" ceiling = .error f ∧
        f.kind = "OverflowError") ∨
      ¬ AsksTooLong settings ∧ ∃ x, capTime settings "max_time_s" ceiling = .ok x ∧
        Granted leastTime ceiling (asked settings "max_time_s" ceiling Datum.toFloat) x := by
  rw [← overflows_asked_float settings ceiling, capTime_eq]
  refine requested_cases (clamps_time h) fun f hf => ?_
  obtain ⟨d, -, herror⟩ := asked_error hf
  exact (toFloat_error herror).imp id (Or.imp id And.left)

/-- **The limits of a client.** Whatever settings ask for, each limit lies between its least value
and the usual one, is what was asked for if this can be read and lies there, and is the usual one if
it cannot be read. Only numbers too large to be converted are not dealt with so: with one of them the
request fails. -/
theorem capLimits_grants :
    (Oversized settings ∧ ∃ f, capLimits settings = .error f ∧ f.kind = "OverflowError") ∨
      ¬ Oversized settings ∧ ∃ limits, capLimits settings = .ok limits ∧
        Grants settings limits ∧ limitsOf (settingsOf limits) = .ok limits := by
  have hall : capLimits settings = do
      let loop ← capInt settings "max_loop" usual.maxLoop
      let depth ← capInt settings "max_call_depth" usual.maxCallDepth
      let chars ← capInt settings "max_output_chars" usual.maxOutputChars
      let steps ← capInt settings "max_steps" usual.maxSteps
      let time ← capTime settings "max_time_s" usual.maxTime
      return ⟨loop, depth, chars, steps, time⟩ := rfl
  -- the first limit that cannot be granted decides, and with it the whole request fails
  have hinfinite {name : String} (hname : name ∈ wholeLimits.map Prod.fst)
      (h : AsksInfinite settings name) : Oversized settings := .inl ⟨name, hname, h⟩
  obtain ⟨h, f, hf, hkind⟩ | ⟨hloop, loop, hl, gl⟩ :=
    capInt_cases settings "max_loop" usual.maxLoop (by decide)
  · exact .inl ⟨hinfinite (by decide) h, f, by rw [hall, hf]; rfl, hkind⟩
  obtain ⟨h, f, hf, hkind⟩ | ⟨hdepth, depth, hd, gd⟩ :=
    capInt_cases settings "max_call_depth" usual.maxCallDepth (by decide)
  · exact .inl ⟨hinfinite (by decide) h, f, by rw [hall, hl, hf]; rfl, hkind⟩
  obtain ⟨h, f, hf, hkind⟩ | ⟨hchars, chars, hc, gc⟩ :=
    capInt_cases settings "max_output_chars" usual.maxOutputChars (by decide)
  · exact .inl ⟨hinfinite (by decide) h, f, by rw [hall, hl, hd, hf]; rfl, hkind⟩
  obtain ⟨h, f, hf, hkind⟩ | ⟨hsteps, steps, hs, gs⟩ :=
    capInt_cases settings "max_steps" usual.maxSteps (by decide)
  · exact .inl ⟨hinfinite (by decide) h, f, by rw [hall, hl, hd, hc, hf]; rfl, hkind⟩
  obtain ⟨h, f, hf, hkind⟩ | ⟨htime, time, ht, gt⟩ :=
    capTime_cases settings usual.maxTime (by decide)
  · exact .inl ⟨.inr h, f, by rw [hall, hl, hd, hc, hs, hf]; rfl, hkind⟩
  have hwhole : ∀ p ∈ wholeLimits, Granted 1 (p.2 usual)
      (asked settings p.1 (p.2 usual) Datum.toInt) (p.2 ⟨loop, depth, chars, steps, time⟩) := by
    simp only [wholeLimits, List.forall_mem_cons]
    exact ⟨gl, gd, gc, gs, fun _ h => nomatch h⟩
  refine .inr ⟨?_, _, by rw [hall, hl, hd, hc, hs, ht]; rfl, ⟨hwhole, gt⟩, rfl⟩
  rintro (⟨name, hname, h⟩ | h)
  · simp only [wholeLimits, List.map_cons, List.map_nil, List.mem_cons, List.not_mem_nil,
      or_false] at hname
    obtain rfl | rfl | rfl | rfl := hname
    · exact hloop h
    · exact hdepth h
    · exact hchars h
    · exact hsteps h
  · exact htime h

/-- An infinite number for a whole one is such a number. -/
theorem capLimits_infinite : ¬ ∃ limits, capLimits [("max_loop", .plain (.float infinity))] =
    .ok limits := by
  rintro ⟨limits, h⟩
  cases h

end

end Grading

end SnippetGrader
