import Mathlib.Data.List.Induction
import SnippetGrader.Proofs.Outcome

/-!
# The printed text

The finished lines, each with its line end, and the unfinished line are the text that was printed.
Printing adds to its end. What a report calls its output is this text without a line end at the
end, so a run that goes on after another one has an output that starts with the other's.
-/

namespace SnippetGrader

open Text

/-! ## Lines of a text -/

theorem cutAt_ne_nil (sep : Char) (text : List Char) : cutAt sep text ≠ [] := by
  cases text with
  | nil => simp [cutAt]
  | cons c rest =>
    simp only [cutAt]
    split
    · simp
    · split <;> simp

/-- The pieces with separators between them are the text again. -/
theorem join_cutAt (sep : Char) (text : List Char) :
    (cutAt sep text).dropLast.flatMap (· ++ [sep]) ++ (cutAt sep text).getLast?.getD [] = text := by
  induction text with
  | nil => rfl
  | cons c rest ih =>
    have hne := cutAt_ne_nil sep rest
    obtain ⟨piece, more, hcut⟩ := List.exists_cons_of_ne_nil hne
    rw [hcut] at ih
    simp only [cutAt, hcut]
    split
    · next hc =>
      rw [beq_iff_eq] at hc
      subst hc
      simpa using ih
    · cases more with
      | nil => simpa using ih
      | cons next more => simpa using ih

theorem not_mem_cutAt {sep : Char} {text piece : List Char} (h : piece ∈ cutAt sep text) :
    sep ∉ piece := by
  induction text generalizing piece with
  | nil =>
    simp only [cutAt, List.mem_singleton] at h
    simp [h]
  | cons c rest ih =>
    obtain ⟨first, more, hcut⟩ := List.exists_cons_of_ne_nil (cutAt_ne_nil sep rest)
    rw [hcut] at ih
    simp only [cutAt, hcut] at h
    split at h
    · obtain rfl | h := List.mem_cons.1 h
      · simp
      · exact ih h
    · next hc =>
      rw [beq_iff_eq] at hc
      obtain rfl | h := List.mem_cons.1 h
      · simp only [List.mem_cons, not_or]
        exact ⟨fun h => hc h.symm, ih List.mem_cons_self⟩
      · exact ih (List.mem_cons_of_mem _ h)

/-- Lines joined by a separator that none of them holds are cut apart again. -/
theorem cutAt_intercalate {sep : Char} {lines : List (List Char)} (hne : lines ≠ [])
    (h : ∀ line ∈ lines, sep ∉ line) : cutAt sep ([sep].intercalate lines) = lines := by
  have hline (line rest : List Char) (hsep : sep ∉ line) (piece : List Char)
      (more : List (List Char)) (hrest : cutAt sep rest = piece :: more) :
      cutAt sep (line ++ rest) = (line ++ piece) :: more := by
    induction line with
    | nil => exact hrest
    | cons c line ih =>
      have hc : (c == sep) = false := beq_false_of_ne fun hc => hsep (hc ▸ List.mem_cons_self)
      rw [List.cons_append, cutAt, hc, ih fun hmem => hsep (List.mem_cons_of_mem c hmem)]
      rfl
  induction lines with
  | nil => exact absurd rfl hne
  | cons line more ih =>
    have hsep := h line List.mem_cons_self
    cases more with
    | nil =>
      have hlast := hline line [] hsep [] [] rfl
      rw [List.append_nil] at hlast
      rwa [List.intercalate_singleton]
    | cons next more =>
      have hrest := ih (by simp) fun l hl => h l (List.mem_cons_of_mem line hl)
      rw [List.intercalate_cons_of_ne_nil (by simp), List.append_assoc]
      refine (hline line _ hsep [] (next :: more) ?_).trans (by rw [List.append_nil])
      rw [List.singleton_append, cutAt, beq_self_eq_true, hrest]
      rfl

/-! ## The text of a machine -/

namespace Machine

/-- The text that was printed. -/
def text (m : Machine) : List Char :=
  m.finished.toList.flatMap (fun line => line.toList ++ ['\n']) ++ m.pending.toList

/-- The unfinished line holds no line end. -/
def Tidy (m : Machine) : Prop := '\n' ∉ m.pending.toList

theorem text_printed (m : Machine) (t : String) : (m.printed t).text = m.text ++ t.toList := by
  have h := join_cutAt '\n' (m.pending.toList ++ t.toList)
  have hlast (pieces : List (List Char)) : ((pieces.map String.ofList).getLast?.getD "").toList =
      pieces.getLast?.getD [] := by
    rw [List.getLast?_map]
    cases pieces.getLast? <;> simp
  simp only [text, printed, splitOutput, hlast, Array.toList_append, List.flatMap_append,
    List.append_assoc, ← List.map_dropLast, List.flatMap_map, String.toList_ofList]
  rw [h]

theorem tidy_printed (m : Machine) (t : String) : (m.printed t).Tidy := by
  have hne := cutAt_ne_nil '\n' (m.pending.toList ++ t.toList)
  have h := not_mem_cutAt (List.getLast_mem hne)
  simpa [Tidy, printed, splitOutput, List.getLast?_map, List.getLast?_eq_some_getLast hne] using h

theorem splitOutput_line {text : List Char} (h : '\n' ∉ text) :
    splitOutput (text ++ ['\n']) = ([String.ofList text], "") := by
  have hcut : cutAt '\n' (['\n'].intercalate [text, []]) = [text, []] :=
    cutAt_intercalate (List.cons_ne_nil _ _) (by simpa using h)
  have hjoined : ['\n'].intercalate [text, []] = text ++ ['\n'] := by simp [List.intercalate]
  rw [hjoined] at hcut
  rw [splitOutput, hcut]
  rfl

theorem outputLines_printed {m : Machine} (hfinished : m.finished = #[]) (hpending : m.pending = "")
    {line : List Char} (hline : '\n' ∉ line) :
    (m.printed (String.ofList line ++ "\n")).outputLines = [String.ofList line] := by
  have hsplit : splitOutput (m.pending.toList ++ (String.ofList line ++ "\n").toList) =
      ([String.ofList line], "") := by
    have htext : m.pending.toList ++ (String.ofList line ++ "\n").toList = line ++ ['\n'] := by
      have htoList : (String.ofList line).toList = line := String.toList_ofList
      rw [hpending, String.toList_append, htoList]
      rfl
    rw [htext, splitOutput_line hline]
  rw [outputLines, printed, hsplit, hfinished]
  rfl

end Machine

/-! ## The output of a report -/

/-- A text without a line end at its end. -/
def chomp (text : List Char) : List Char :=
  if text.getLast? = some '\n' then text.dropLast else text

theorem intercalate_concat (sep : List Char) (lines : List (List Char)) (last : List Char) :
    sep.intercalate (lines ++ [last]) = lines.flatMap (· ++ sep) ++ last := by
  induction lines with
  | nil => simp
  | cons line lines ih =>
    rw [List.cons_append, List.intercalate_cons_of_ne_nil (by simp), ih]
    simp

/-- The output of a run is the text that was printed without a line end at its end. -/
theorem output_eq_chomp {m : Machine} (h : m.Tidy) (warnings : List String)
    (failure : Option Failure) :
    (Report.output ⟨m.outputLines, warnings, failure⟩).toList = chomp m.text := by
  have hnl : "\n".toList = ['\n'] := rfl
  unfold Report.output Machine.outputLines Machine.text
  generalize m.finished.toList = lines
  split
  · next hempty =>
    have hpending : m.pending.toList = [] := by
      rw [String.isEmpty_iff] at hempty
      rw [hempty]
      rfl
    rw [hpending]
    cases lines using List.reverseRecOn with
    | nil => rfl
    | append_singleton lines last _ =>
      simp [hnl, intercalate_concat, chomp, List.flatMap_map, ← List.append_assoc]
  · next hne =>
    have hpending : m.pending.toList ≠ [] := by
      intro hnil
      exact hne (by simp [String.isEmpty_iff, ← String.toList_eq_nil_iff, hnil])
    have hlast : m.pending.toList.getLast? ≠ some '\n' :=
      fun hlast => h (List.mem_of_getLast? hlast)
    simp [hnl, intercalate_concat, chomp, List.flatMap_map, List.getLast?_append, hlast, hpending]

theorem Outcome.output_report {α : Type} {r : Outcome α} (h : (Outcome.after r).Tidy) :
    (Outcome.report r).output.toList = chomp (Outcome.after r).text := by
  cases r <;> exact output_eq_chomp h _ _

theorem Machine.start_tidy (limits : Limits) (inputs : Inputs) (host : Host) :
    (Machine.start limits inputs host).Tidy := by
  obtain ⟨store, values, -, h⟩ := Machine.exists_start_eq inputs host
  rw [h]
  exact List.not_mem_nil

end SnippetGrader
