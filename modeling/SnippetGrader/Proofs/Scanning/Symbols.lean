import Mathlib.Data.List.Nodup
import Mathlib.Data.List.Pairwise
import SnippetGrader.Proofs.Extent
import SnippetGrader.Proofs.Layout.Cutting
import SnippetGrader.Proofs.Scanning.Marks

/-!
# Symbols of a text

The tokens of a text lie one behind the other on its code at depth zero, and between them no character
is left at which a symbol can be read. Which symbol a character is part of is settled from the left: a
token takes the longest symbol at its position and passes over all of it, so that `===` is a comparison
and a `=` of its own. Hence no `=` is part of two symbols, and the one at which a text is read as an
assignment is not part of a comparison.
-/

namespace SnippetGrader.Source

open Text

/-! ## The longest symbol -/

/-- Of the symbols that a text starts with, `s` is the longest. -/
structure Symbol.IsLongest (s : Symbol) (text : List Char) : Prop where
  stands : s.chars <+: text
  longest : ∀ other : Symbol, other ≠ s → other.chars <+: text → other.length < s.length

namespace Symbol

theorem mem_all (s : Symbol) : s ∈ all := by
  cases s <;> decide

theorem chars_injective {s other : Symbol} (h : s.chars = other.chars) : s = other :=
  List.inj_on_of_nodup_map (by decide : (all.map chars).Nodup) s.mem_all other.mem_all h

theorem pairwise_length_all : all.Pairwise fun s other => other.length ≤ s.length := by decide

theorem isLongest_of_at? {text : List Char} {s : Symbol} (h : at? text = some s) :
    s.IsLongest text := by
  have hstands := at?_prefix h
  refine ⟨hstands, fun other hne hother => ?_⟩
  have hle : other.length ≤ s.length := by
    rw [at?] at h
    split at h
    · obtain ⟨-, before, behind, hall, hbefore⟩ := List.find?_eq_some_iff_append.1 h
      have hsorted := pairwise_length_all
      have hmem := other.mem_all
      rw [hall] at hsorted hmem
      obtain hmem | hmem := List.mem_append.1 hmem
      · have hmiss := hbefore other hmem
        rw [startsWith, List.isPrefixOf_iff_prefix.2 hother] at hmiss
        cases hmiss
      · obtain hmem | hmem := List.mem_cons.1 hmem
        · exact absurd hmem hne
        · exact (List.pairwise_cons.1 (List.pairwise_append.1 hsorted).2.1).1 other hmem
    · cases h
  refine Nat.lt_of_le_of_ne hle fun hlength => hne (chars_injective ?_)
  exact (List.prefix_of_prefix_length_le hother hstands hle).eq_of_length hlength

/-- A character of a symbol is a symbol by itself, but for `!`. -/
theorem singleton_mem_all : ∀ c ∈ all.flatMap chars, c = '!' ∨ [c] ∈ all.map chars :=
  Rendering.forall_of_all (by decide)

theorem isSymbolChar_of_mem : ∀ c ∈ all.flatMap chars, isSymbolChar c = true :=
  Rendering.forall_of_all (by decide)

/-- A symbol is read at each character of a symbol, except for a `!` that no `=` follows. -/
theorem exists_at? {c : Char} {rest : List Char} (hc : c ∈ all.flatMap chars)
    (hmark : c = '!' → rest.head? = some '=') : ∃ s, at? (c :: rest) = some s := by
  have hstarts : ∃ s : Symbol, s.chars <+: c :: rest := by
    obtain hc | hc := singleton_mem_all c hc
    · obtain ⟨more, rfl⟩ := List.head?_eq_some_iff.1 (hmark hc)
      exact ⟨.ne, more, by rw [hc]; rfl⟩
    · obtain ⟨s, -, hs⟩ := List.mem_map.1 hc
      exact ⟨s, rest, by rw [hs]; rfl⟩
  obtain ⟨s, hs⟩ := hstarts
  have hfind : (all.find? fun s => startsWith (c :: rest) s.chars).isSome = true :=
    List.find?_isSome.2 ⟨s, s.mem_all, List.isPrefixOf_iff_prefix.2 hs⟩
  refine Option.isSome_iff_exists.1 ?_
  rw [at?, List.head?_cons, Option.any_some, isSymbolChar_of_mem c hc, if_pos rfl, hfind]

theorem isSymbolChar_of_at? {c : Char} {rest : List Char} {s : Symbol}
    (h : at? (c :: rest) = some s) : isSymbolChar c = true := by
  rw [at?] at h
  split at h
  · next hc => exact hc
  · cases h

theorem isPlain_of_isSymbolChar {c : Char} (h : isSymbolChar c = true) :
    Rendering.isPlain c = true := by
  simp only [isSymbolChar, Bool.or_eq_true, beq_iff_eq, or_assoc] at h
  obtain rfl | rfl | rfl | rfl | rfl | rfl | rfl | rfl | rfl | rfl | rfl := h <;> rfl

theorem isPlain_of_mem_chars {s : Symbol} {c : Char} (h : c ∈ s.chars) :
    Rendering.isPlain c = true :=
  isPlain_of_isSymbolChar
    (isSymbolChar_of_mem c (List.mem_flatMap.2 ⟨s, s.mem_all, h⟩))

end Symbol

/-! ## One character -/

/-- A character belongs to the token in front of it, or a token starts at it, or no token holds it. -/
theorem tokensFrom_step (r : Reader) (i skip : Nat) (c : Char) (rest : List Char) :
    (∃ left, skip = left + 1 ∧
        tokensFrom r i skip (c :: rest) = tokensFrom (r.step c rest).1 (i + 1) left rest) ∨
      (skip = 0 ∧ ∃ s, (r.step c rest).2 = .code 0 ∧ Symbol.at? (c :: rest) = some s ∧
        tokensFrom r i skip (c :: rest) =
          ⟨i, s⟩ :: tokensFrom (r.step c rest).1 (i + 1) (s.length - 1) rest) ∨
      (skip = 0 ∧ ((r.step c rest).2 = .code 0 → Symbol.at? (c :: rest) = none) ∧
        tokensFrom r i skip (c :: rest) = tokensFrom (r.step c rest).1 (i + 1) 0 rest) := by
  cases skip with
  | succ left => exact .inl ⟨left, rfl, by simp [tokensFrom]⟩
  | zero =>
    by_cases hplace : (r.step c rest).2 = .code 0
    · cases hat : Symbol.at? (c :: rest) with
      | some s => exact .inr (.inl ⟨rfl, s, hplace, rfl, by simp [tokensFrom, hplace, hat]⟩)
      | none => exact .inr (.inr ⟨rfl, fun _ => rfl, by simp [tokensFrom, hplace, hat]⟩)
    · exact .inr (.inr ⟨rfl, fun h => absurd h hplace, by simp [tokensFrom, hplace]⟩)

/-! ## Where the tokens stand -/

theorem le_pos_of_mem_tokensFrom {r : Reader} {i skip : Nat} {text : List Char} {t : Token}
    (h : t ∈ tokensFrom r i skip text) : i + skip ≤ t.pos := by
  induction text generalizing r i skip with
  | nil => cases h
  | cons c rest ih =>
    obtain ⟨left, rfl, heq⟩ | ⟨rfl, s, -, -, heq⟩ | ⟨rfl, -, heq⟩ := tokensFrom_step r i skip c rest
    · rw [heq] at h
      have := ih h
      omega
    · rw [heq] at h
      obtain rfl | h := List.mem_cons.1 h
      · exact Nat.le_refl _
      · have := ih h
        omega
    · rw [heq] at h
      have := ih h
      omega

/-- A token starts behind the end of the one in front of it. -/
theorem pairwise_tokensFrom (r : Reader) (i skip : Nat) (text : List Char) :
    (tokensFrom r i skip text).Pairwise fun t u => t.stop ≤ u.pos := by
  induction text generalizing r i skip with
  | nil => exact .nil
  | cons c rest ih =>
    obtain ⟨left, -, heq⟩ | ⟨-, s, -, -, heq⟩ | ⟨-, -, heq⟩ := tokensFrom_step r i skip c rest
    · rw [heq]
      exact ih _ _ _
    · rw [heq]
      refine List.pairwise_cons.2 ⟨fun u hu => ?_, ih _ _ _⟩
      have := le_pos_of_mem_tokensFrom hu
      have := s.length_pos
      simp only [Token.stop]
      omega
    · rw [heq]
      exact ih _ _ _

/-- At a token the reader is at the start, and the symbol is read there. -/
theorem exists_of_mem_tokensFrom {r : Reader} {i skip : Nat} {text : List Char} {t : Token}
    (h : t ∈ tokensFrom r i skip text) :
    ∃ (a rest : List Char) (front : List Mark), text = a ++ rest ∧ t.pos = i + a.length ∧
      Symbol.at? rest = some t.symbol ∧ scanFrom r i text = front ++ scanFrom {} t.pos rest := by
  induction text generalizing r i skip with
  | nil => cases h
  | cons c rest ih =>
    have later {skip' : Nat} (h : t ∈ tokensFrom (r.step c rest).1 (i + 1) skip' rest) :
        ∃ (a tail : List Char) (front : List Mark), c :: rest = a ++ tail ∧ t.pos = i + a.length ∧
          Symbol.at? tail = some t.symbol ∧
          scanFrom r i (c :: rest) = front ++ scanFrom {} t.pos tail := by
      obtain ⟨a, tail, front, hrest, hpos, hat, hscan⟩ := ih h
      refine ⟨c :: a, tail, (r.step c rest).2.marks i c ++ front, by rw [hrest, List.cons_append],
        ?_, hat, ?_⟩
      · rw [hpos, List.length_cons]
        omega
      · rw [scanFrom_cons, hscan, List.append_assoc]
    obtain ⟨left, -, heq⟩ | ⟨-, s, hplace, hat, heq⟩ | ⟨-, -, heq⟩ :=
      tokensFrom_step r i skip c rest
    · rw [heq] at h
      exact later h
    · rw [heq] at h
      obtain rfl | h := List.mem_cons.1 h
      · have hplain := Symbol.isPlain_of_isSymbolChar (Symbol.isSymbolChar_of_at? hat)
        have hstart := (Reader.eq_start_of_step hplain hplace).1
        exact ⟨[], c :: rest, [], rfl, rfl, hat, by rw [hstart, List.nil_append]⟩
      · exact later h
    · rw [heq] at h
      exact later h

/-- Characters that are neither marks nor brackets have the depth of the reader. -/
theorem exists_mem_scanFrom_of_plain {a : List Char} (ha : ∀ c ∈ a, Rendering.isPlain c = true)
    (d i : Nat) (b : List Char) {j : Nat} (hj : j < a.length) :
    ∃ m ∈ scanFrom ⟨.code, d⟩ i (a ++ b), m.index = i + j ∧ m.depth = d := by
  induction a generalizing i j with
  | nil => cases hj
  | cons c rest ih =>
    rw [List.forall_mem_cons] at ha
    rw [List.cons_append, scanFrom_cons, Rendering.step_plain ha.1]
    cases j with
    | zero => exact ⟨⟨i, c, d⟩, List.mem_cons_self, rfl, rfl⟩
    | succ j =>
      obtain ⟨m, hm, hindex, hdepth⟩ := ih ha.2 (i + 1) (Nat.lt_of_succ_lt_succ hj)
      exact ⟨m, List.mem_append_right _ hm, by omega, hdepth⟩

/-! ## What the tokens cover -/

/-- Position `i` is one of a token's symbol. -/
def Token.Covers (t : Token) (i : Nat) : Prop := t.pos ≤ i ∧ i < t.stop

instance (t : Token) (i : Nat) : Decidable (t.Covers i) :=
  inferInstanceAs (Decidable (t.pos ≤ i ∧ i < t.stop))

/-- Position `i` of a text stands in code at depth zero. -/
def IsTopLevel (text : List Char) (i : Nat) : Prop := ∃ m ∈ scan text, m.index = i ∧ m.depth = 0

/-- No character at depth zero at which a symbol can be read is left out. -/
theorem exists_covers_of_mem_scanFrom {r : Reader} {i skip : Nat} {text : List Char} {m : Mark}
    (hm : m ∈ scanFrom r i text) (hdepth : m.depth = 0)
    (hat : Symbol.at? (text.drop (m.index - i)) ≠ none) :
    m.index < i + skip ∨ ∃ t ∈ tokensFrom r i skip text, t.Covers m.index := by
  induction text generalizing r i skip with
  | nil => cases hm
  | cons c rest ih =>
    -- the rest of the text, whose first `skip'` characters belong to the token in front of them
    have later (skip' : Nat) (hm : m ∈ scanFrom (r.step c rest).1 (i + 1) rest) :
        i + 1 ≤ m.index ∧ (m.index < i + 1 + skip' ∨
          ∃ t ∈ tokensFrom (r.step c rest).1 (i + 1) skip' rest, t.Covers m.index) := by
      have hindex := (index_of_mem_scanFrom hm).1
      have hoffset : m.index - i = m.index - (i + 1) + 1 := by omega
      rw [hoffset, List.drop_succ_cons] at hat
      exact ⟨hindex, ih hm hat⟩
    obtain ⟨hplace, hindex, -⟩ | hm := mem_scanFrom_cons.1 hm
    · rw [hdepth] at hplace
      rw [hindex, Nat.sub_self, List.drop_zero] at hat
      obtain ⟨left, rfl, -⟩ | ⟨rfl, s, -, -, heq⟩ | ⟨rfl, hnone, -⟩ :=
        tokensFrom_step r i skip c rest
      · exact .inl (by omega)
      · refine .inr ⟨⟨i, s⟩, by rw [heq]; exact List.mem_cons_self, ?_⟩
        have := s.length_pos
        simp only [Token.Covers, Token.stop]
        omega
      · exact absurd (hnone hplace) hat
    · obtain ⟨left, rfl, heq⟩ | ⟨rfl, s, -, -, heq⟩ | ⟨rfl, -, heq⟩ :=
        tokensFrom_step r i skip c rest
      · rw [heq]
        obtain ⟨-, hlt | hcovered⟩ := later left hm
        · exact .inl (by omega)
        · exact .inr hcovered
      · rw [heq]
        obtain ⟨hle, hlt | ⟨t, ht, hcovers⟩⟩ := later (s.length - 1) hm
        · refine .inr ⟨⟨i, s⟩, List.mem_cons_self, ?_⟩
          simp only [Token.Covers, Token.stop]
          omega
        · exact .inr ⟨t, List.mem_cons_of_mem _ ht, hcovers⟩
      · rw [heq]
        obtain ⟨hle, hlt | hcovered⟩ := later 0 hm
        · omega
        · exact .inr hcovered

section Tokens

variable {text : List Char}

theorem pairwise_tokens (text : List Char) :
    (tokens text).Pairwise fun t u => t.pos < u.pos ∧ t.stop ≤ u.pos :=
  (pairwise_tokensFrom {} 0 0 text).imp fun {t _} h =>
    ⟨Nat.lt_of_lt_of_le (Nat.lt_add_of_pos_right t.symbol.length_pos) h, h⟩

theorem isLongest_of_mem_tokens {t : Token} (h : t ∈ tokens text) :
    t.symbol.IsLongest (text.drop t.pos) := by
  obtain ⟨a, rest, -, rfl, hpos, hat, -⟩ := exists_of_mem_tokensFrom h
  rw [hpos, Nat.zero_add, List.drop_left]
  exact Symbol.isLongest_of_at? hat

/-- The characters of a token are where its symbol is written. -/
theorem getElem?_of_mem_tokens {t : Token} (h : t ∈ tokens text) {j : Nat}
    (hj : j < t.symbol.length) : text[t.pos + j]? = t.symbol.chars[j]? := by
  obtain ⟨b, hb⟩ := (isLongest_of_mem_tokens h).stands
  rw [← List.getElem?_drop, ← hb, List.getElem?_append_left hj]

/-- A token stands in code at depth zero from its first to its last character. -/
theorem isTopLevel_of_covers {t : Token} (h : t ∈ tokens text) {i : Nat} (hi : t.Covers i) :
    IsTopLevel text i := by
  obtain ⟨a, rest, front, rfl, hpos, hat, hscan⟩ := exists_of_mem_tokensFrom h
  obtain ⟨b, rfl⟩ := Symbol.at?_prefix hat
  obtain ⟨hle, hlt⟩ := hi
  have hj : i - t.pos < t.symbol.chars.length := by
    rw [Token.stop, Symbol.length] at hlt
    omega
  obtain ⟨m, hm, hindex, hdepth⟩ := exists_mem_scanFrom_of_plain
    (fun c hc => Symbol.isPlain_of_mem_chars hc) 0 t.pos b hj
  refine ⟨m, ?_, by omega, hdepth⟩
  rw [scan, hscan]
  exact List.mem_append_right front hm

/-- No position belongs to two tokens. -/
theorem eq_of_covers {t u : Token} (ht : t ∈ tokens text) (hu : u ∈ tokens text) {i : Nat}
    (hti : t.Covers i) (hui : u.Covers i) : t = u := by
  have hall : (tokens text).Pairwise fun t u => t.Covers i → u.Covers i → t = u :=
    (pairwise_tokens text).imp fun {t u} h ht hu =>
      absurd (Nat.lt_of_lt_of_le ht.2 (h.2.trans hu.1)) (Nat.lt_irrefl i)
  have hflip : (tokens text).Pairwise (flip fun t u => t.Covers i → u.Covers i → t = u) :=
    hall.imp fun h hu ht => (h ht hu).symm
  exact hall.forall_of_forall_of_flip (fun _ _ _ _ => rfl) hflip ht hu hti hui

/-- Each position at depth zero with a character of a symbol is covered. -/
theorem exists_covers {m : Mark} (hm : m ∈ scan text) (hdepth : m.depth = 0)
    (hchar : m.char ∈ Symbol.all.flatMap Symbol.chars)
    (hmark : m.char = '!' → text[m.index + 1]? = some '=') :
    ∃ t ∈ tokens text, t.Covers m.index := by
  obtain ⟨hlt, hget⟩ := List.getElem?_eq_some_iff.1 (getElem?_of_mem_scan hm)
  have hdrop : text.drop m.index = m.char :: text.drop (m.index + 1) := by
    rw [List.drop_eq_getElem_cons hlt, hget]
  have hhead : m.char = '!' → (text.drop (m.index + 1)).head? = some '=' := by
    rwa [List.head?_drop]
  have hat : Symbol.at? (text.drop (m.index - 0)) ≠ none := by
    obtain ⟨s, hs⟩ := Symbol.exists_at? hchar hhead
    rw [Nat.sub_zero, hdrop, hs]
    exact Option.some_ne_none s
  have hcovered : m.index < 0 + 0 ∨ ∃ t ∈ tokens text, t.Covers m.index :=
    exists_covers_of_mem_scanFrom hm hdepth hat
  exact hcovered.resolve_left (Nat.not_lt_zero m.index)

end Tokens

/-! ## Assignments -/

theorem Symbol.getElem?_chars_of_isAssignment {s : Symbol} (h : s.isAssignment = true) :
    s.chars[s.length - 1]? = some '=' := by
  revert h
  cases s <;> decide

theorem Symbol.not_mem_of_isAssignment {s : Symbol} (h : s.isAssignment = true) :
    s ∉ [.eq, .ne, .le, .ge, .walrus] := by
  revert h
  cases s <;> decide

theorem exists_token_of_assignment? {text : List Char} {a : Assignment}
    (h : assignment? text = some a) :
    ∃ t, (tokens text).find? (fun t => t.symbol.isAssignment) = some t ∧
      a = ⟨trim (text.take t.pos), t.symbol, trim (text.drop t.stop)⟩ := by
  rw [assignment?] at h
  split at h
  · cases h
  · next t hfind =>
    refine ⟨t, hfind, ?_⟩
    dsimp only at h
    split at h
    · cases h
    · exact (Option.some.inj h).symm

/-- **The symbols of a text.** The tokens stand one behind the other on code at depth zero, each of
them the longest symbol at its position. Every character of a symbol that stands there is part of
exactly one token, except for a `!` that no `=` follows. So the `=` at which a text is read as an
assignment stands in no bracket and in no literal, and it is not part of a comparison or of `:=`. -/
theorem tokens_tile (text : List Char) :
    (tokens text).Pairwise (fun t u => t.pos < u.pos ∧ t.stop ≤ u.pos) ∧
      (∀ t ∈ tokens text, t.symbol.IsLongest (text.drop t.pos) ∧
        ∀ i, t.Covers i → IsTopLevel text i) ∧
      (∀ m ∈ scan text, m.depth = 0 → m.char ∈ Symbol.all.flatMap Symbol.chars →
        (m.char = '!' → text[m.index + 1]? = some '=') →
          ∃! t, t ∈ tokens text ∧ t.Covers m.index) ∧
      ∀ a, assignment? text = some a → ∃ t i,
        (tokens text).find? (fun t => t.symbol.isAssignment) = some t ∧
          a = ⟨trim (text.take t.pos), t.symbol, trim (text.drop t.stop)⟩ ∧
          i + 1 = t.stop ∧ text[i]? = some '=' ∧ IsTopLevel text i ∧
          ∀ u ∈ tokens text, u.Covers i → u.symbol ∉ [.eq, .ne, .le, .ge, .walrus] := by
  refine ⟨pairwise_tokens text, fun t ht => ?_, fun m hm hdepth hchar hmark => ?_, fun a ha => ?_⟩
  · exact ⟨isLongest_of_mem_tokens ht, fun i hi => isTopLevel_of_covers ht hi⟩
  · obtain ⟨t, ht, hcovers⟩ := exists_covers hm hdepth hchar hmark
    exact ⟨t, ⟨ht, hcovers⟩, fun u hu => eq_of_covers hu.1 ht hu.2 hcovers⟩
  · obtain ⟨t, hfind, ha⟩ := exists_token_of_assignment? ha
    have ht := List.mem_of_find?_eq_some hfind
    have hassigns : t.symbol.isAssignment = true := by simpa using List.find?_some hfind
    have hlength := t.symbol.length_pos
    have hcovers : t.Covers (t.pos + (t.symbol.length - 1)) := by
      simp only [Token.Covers, Token.stop]
      omega
    refine ⟨t, t.pos + (t.symbol.length - 1), hfind, ha, ?_, ?_, isTopLevel_of_covers ht hcovers,
      fun u hu hu' => ?_⟩
    · rw [Token.stop]
      omega
    · rw [getElem?_of_mem_tokens ht (by omega), Symbol.getElem?_chars_of_isAssignment hassigns]
    · rw [eq_of_covers hu ht hu' hcovers]
      exact Symbol.not_mem_of_isAssignment hassigns

/-- Symbols side by side, a `!` of its own, and a `=` in a bracket, in a literal, in a comparison and
behind one. -/
theorem tokens_tile_crowded :
    let text := "f(x=1).y **=-'=' ===z!>=-!=a".toList
    let a : Assignment := ⟨"f(x=1).y".toList, .powAssign, "-'=' ===z!>=-!=a".toList⟩
    (tokens text).Pairwise (fun t u => t.pos < u.pos ∧ t.stop ≤ u.pos) ∧
      (⟨19, .assign⟩ ∈ tokens text ∧ Symbol.IsLongest .assign (text.drop 19) ∧
        IsTopLevel text 19) ∧
      ((⟨25, '!', 0⟩ : Mark) ∈ scan text ∧ '!' ∈ Symbol.all.flatMap Symbol.chars ∧
        text[26]? = some '=' ∧ ∃! t, t ∈ tokens text ∧ t.Covers 25) ∧
      assignment? text = some a ∧ ∃ t i,
        (tokens text).find? (fun t => t.symbol.isAssignment) = some t ∧
          a = ⟨trim (text.take t.pos), t.symbol, trim (text.drop t.stop)⟩ ∧
          i + 1 = t.stop ∧ text[i]? = some '=' ∧ IsTopLevel text i ∧
          ∀ u ∈ tokens text, u.Covers i → u.symbol ∉ [.eq, .ne, .le, .ge, .walrus] := by
  intro text a
  obtain ⟨hpairwise, htoken, hcovered, hassignment⟩ := tokens_tile text
  have hsecond : ⟨19, .assign⟩ ∈ tokens text := by decide
  have hmark : (⟨25, '!', 0⟩ : Mark) ∈ scan text := by decide
  have hchar : '!' ∈ Symbol.all.flatMap Symbol.chars := by decide
  have hnext : text[26]? = some '=' := by decide
  have ha : assignment? text = some a := by decide
  obtain ⟨hlongest, htop⟩ := htoken _ hsecond
  exact ⟨hpairwise, ⟨hsecond, hlongest, htop 19 (by decide)⟩,
    ⟨hmark, hchar, hnext, hcovered _ hmark rfl hchar fun _ => hnext⟩, ha, hassignment a ha⟩

end SnippetGrader.Source
