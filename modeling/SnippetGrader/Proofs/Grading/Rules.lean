import Mathlib.Data.Bool.AllAny
import Mathlib.Data.List.Basic
import Mathlib.Data.Set.Basic
import SnippetGrader.Grading.Rule
import SnippetGrader.Proofs.Rendering.Scanning

/-!
# Reports on lists of rules

A rule is read without regard to letter case, and a check is active as soon as one rule activates
it. A report therefore depends on a list of rules through the set of its texts only, and more texts
activate more checks.
-/

namespace SnippetGrader.Text

/-! ## Capitals of ASCII -/

def capitals : List Char := "ABCDEFGHIJKLMNOPQRSTUVWXYZ".toList

theorem mem_capitals {c : Char} (hlow : 65 ≤ c.toNat) (hhigh : c.toNat ≤ 90) : c ∈ capitals := by
  have hall : ∀ n ∈ List.range' 65 26, Char.ofNat n ∈ capitals := by decide +kernel
  rw [← Char.ofNat_toNat c]
  exact hall _ (List.mem_range'_1.2 ⟨hlow, by omega⟩)

/-- What takes a capital for its small letter takes every character so. -/
theorem eq_toLower {α : Type} {f : Char → α} (h : ∀ c ∈ capitals, f c.toLower = f c) (c : Char) :
    f c.toLower = f c := by
  by_cases hc : 'A'.val ≤ c.val ∧ c.val ≤ 'Z'.val
  · exact h c (mem_capitals hc.1 hc.2)
  · have hkept : c.toLower = c := dif_neg hc
    rw [hkept]

-- the capitals are gone through by `List.all`: there are few of them, but many characters
theorem lowerForm_toLower (c : Char) : lowerForm c.toLower = lowerForm c :=
  eq_toLower (List.all_iff_forall_prop.1 (by decide +kernel)) c

theorem isSigma_toLower (c : Char) : (c.toLower.toNat == 0x3a3) = (c.toNat == 0x3a3) :=
  eq_toLower (f := fun c => c.toNat == 0x3a3) (List.all_iff_forall_prop.1 (by decide +kernel)) c

theorem isCased_toLower (c : Char) :
    inIntervals casedTable c.toLower = inIntervals casedTable c :=
  eq_toLower (List.all_iff_forall_prop.1 (by decide +kernel)) c

/-- No letter of ASCII is looked through. -/
theorem isCaseIgnorable_toLower (c : Char) :
    inIntervals caseIgnorableTable c.toLower = inIntervals caseIgnorableTable c := by
  have hletters : Rendering.misses caseIgnorableTable 65 90 = true ∧
      Rendering.misses caseIgnorableTable 97 122 = true := by decide +kernel
  have hcodes : ∀ c ∈ capitals, (65 ≤ c.toNat ∧ c.toNat ≤ 90) ∧
      97 ≤ c.toLower.toNat ∧ c.toLower.toNat ≤ 122 :=
    List.all_iff_forall_prop.1 (by decide +kernel)
  refine eq_toLower (fun c hc => ?_) c
  obtain ⟨⟨hlow, hhigh⟩, hlow', hhigh'⟩ := hcodes c hc
  rw [Rendering.inIntervals_eq_false hletters.1 hlow hhigh,
    Rendering.inIntervals_eq_false hletters.2 hlow' hhigh']

theorem meetsCased_toLower (text : List Char) :
    meetsCased (text.map Char.toLower) = meetsCased text := by
  induction text with
  | nil => rfl
  | cons c rest ih =>
    rw [List.map_cons, meetsCased, meetsCased, isCaseIgnorable_toLower, isCased_toLower, ih]

/-- The final sigma is found in the same places, since its neighbours keep their case. -/
theorem toLowerAfter_toLower (before text : List Char) :
    toLowerAfter (before.map Char.toLower) (text.map Char.toLower) = toLowerAfter before text := by
  induction text generalizing before with
  | nil => rfl
  | cons c rest ih =>
    rw [List.map_cons, toLowerAfter, toLowerAfter, isSigma_toLower, lowerForm_toLower,
      meetsCased_toLower, meetsCased_toLower, ← List.map_cons, ih]

theorem toLower_toLower (text : List Char) : toLower (text.map Char.toLower) = toLower text :=
  toLowerAfter_toLower [] text

end SnippetGrader.Text

namespace SnippetGrader.Grading

open Text

/-! ## What a list of rules asks for -/

/-- The texts of a list of rules that are neither null nor empty, their capitals of ASCII made
small. -/
def wording (rules : Option (List (Option String))) : Set (List Char) :=
  {text | ∃ rule, some rule ∈ rules.getD [] ∧ rule ≠ "" ∧ rule.toList.map Char.toLower = text}

def Check.activeIn (check : Check) (rules : Option (List (Option String))) : Bool :=
  ((((rules.getD []).filterMap id).map String.toList).filter fun rule => !rule.isEmpty).any
    check.triggeredBy

theorem Check.triggeredBy_toLower (check : Check) (rule : List Char) :
    check.triggeredBy (rule.map Char.toLower) = check.triggeredBy rule := by
  rw [triggeredBy, triggeredBy, toLower_toLower]

theorem Check.activeIn_iff {check : Check} {rules : Option (List (Option String))} :
    check.activeIn rules = true ↔ ∃ text ∈ wording rules, check.triggeredBy text = true := by
  simp only [activeIn, List.any_eq_true, List.mem_filter, List.mem_map, List.mem_filterMap, id]
  constructor
  · rintro ⟨_, ⟨⟨rule, ⟨_, hmem, rfl⟩, rfl⟩, hne⟩, htriggered⟩
    refine ⟨_, ⟨rule, hmem, ?_, rfl⟩, ?_⟩
    · rintro rfl
      cases hne
    · rw [check.triggeredBy_toLower, htriggered]
  · rintro ⟨_, ⟨rule, hmem, hne, rfl⟩, htriggered⟩
    refine ⟨rule.toList, ⟨⟨rule, ⟨some rule, hmem, rfl⟩, rfl⟩, ?_⟩, ?_⟩
    · simpa using hne
    · rw [← check.triggeredBy_toLower, htriggered]

theorem Check.activeIn_mono {rules rules' : Option (List (Option String))}
    (h : wording rules ⊆ wording rules') {check : Check} (hactive : check.activeIn rules = true) :
    check.activeIn rules' = true := by
  obtain ⟨text, hmem, htriggered⟩ := activeIn_iff.1 hactive
  exact activeIn_iff.2 ⟨text, h hmem, htriggered⟩

/-! ## The report -/

/-- What the checks say when they are asked one after the other: each message at most once, in the
order of the catalogue, and valid is a submission without a message. -/
structure RuleReport.Orderly (report : RuleReport) : Prop where
  nodup : report.violations.Nodup
  sublist : report.violations.Sublist (catalogue.map (·.message))
  valid_iff : report.valid = true ↔ report.violations = []

theorem nodup_messages : (catalogue.map (·.message)).Nodup := by decide +kernel

section Reports

variable (source : Option String) (rules : Option (List (Option String)))

theorem violations_validate :
    (validate source rules).violations =
      (catalogue.filter fun check =>
        check.activeIn rules && check.brokenBy (source.getD "").toList).map (·.message) :=
  rfl

theorem orderly_validate : (validate source rules).Orderly := by
  have hsublist : (validate source rules).violations.Sublist (catalogue.map (·.message)) := by
    rw [violations_validate]
    exact List.filter_sublist.map _
  exact ⟨nodup_messages.sublist hsublist, hsublist, List.isEmpty_iff⟩

end Reports

theorem RuleReport.Orderly.eq {report report' : RuleReport} (h : report.Orderly)
    (h' : report'.Orderly) (heq : report.violations = report'.violations) : report = report' := by
  obtain ⟨valid, broken⟩ := report
  obtain ⟨valid', broken'⟩ := report'
  obtain rfl : broken = broken' := heq
  rw [RuleReport.mk.injEq, Bool.eq_iff_iff]
  exact ⟨h.valid_iff.trans h'.valid_iff.symm, rfl⟩

/-- More rules report more, in the same order, and the same rules report the same, however they are
arranged, repeated and written. -/
theorem validate_mono (source : Option String) {rules rules' : Option (List (Option String))}
    (h : wording rules ⊆ wording rules') :
    (validate source rules).violations.Sublist (validate source rules').violations ∧
      (validate source rules).Orderly ∧ (validate source rules').Orderly ∧
      (wording rules' ⊆ wording rules → validate source rules = validate source rules') := by
  have hmono : ∀ {rules rules' : Option (List (Option String))}, wording rules ⊆ wording rules' →
      (validate source rules).violations.Sublist (validate source rules').violations := by
    intro rules rules' h
    rw [violations_validate, violations_validate]
    refine (List.monotone_filter_right catalogue fun check hcheck => ?_).map _
    rw [Bool.and_eq_true] at hcheck ⊢
    exact ⟨Check.activeIn_mono h hcheck.1, hcheck.2⟩
  have horderly := orderly_validate source rules
  have horderly' := orderly_validate source rules'
  exact ⟨hmono h, horderly, horderly', fun h' =>
    horderly.eq horderly' ((hmono h).antisymm (hmono h'))⟩

/-- Two rules that are arranged, repeated and written in two ways, among null and empty ones. -/
theorem validate_mono_rearranged :
    let rules := [some "No GLOBAL variables", none, some "", some "no hardcoding"]
    let rules' := [some "NO Hardcoding", some "no global variables", some "no Global variables"]
    wording (some rules) ⊆ wording (some rules') ∧ wording (some rules') ⊆ wording (some rules) ∧
      validate (some "global x\nprint(5)") (some rules) =
        validate (some "global x\nprint(5)") (some rules') ∧
      (validate (some "global x\nprint(5)") (some rules)).violations.length = 2 := by
  intro rules rules'
  have hsub : wording (some rules) ⊆ wording (some rules') := by
    rintro _ ⟨rule, hmem, hne, rfl⟩
    simp only [rules, Option.getD_some, List.mem_cons, Option.some.injEq, List.not_mem_nil, or_false,
      reduceCtorEq, false_or] at hmem
    obtain rfl | rfl | rfl := hmem
    · exact ⟨"no global variables", by simp [rules'], by decide, by decide +kernel⟩
    · exact absurd rfl hne
    · exact ⟨"NO Hardcoding", by simp [rules'], by decide, by decide +kernel⟩
  have hsup : wording (some rules') ⊆ wording (some rules) := by
    rintro _ ⟨rule, hmem, -, rfl⟩
    simp only [rules', Option.getD_some, List.mem_cons, Option.some.injEq, List.not_mem_nil,
      or_false] at hmem
    obtain rfl | rfl | rfl := hmem
    · exact ⟨"no hardcoding", by simp [rules], by decide, by decide +kernel⟩
    · exact ⟨"No GLOBAL variables", by simp [rules], by decide, by decide +kernel⟩
    · exact ⟨"No GLOBAL variables", by simp [rules], by decide, by decide +kernel⟩
  exact ⟨hsub, hsup, (validate_mono (some "global x\nprint(5)") hsub).2.2.2 hsup,
    by decide +kernel⟩

end SnippetGrader.Grading
