import JavaSyntax.Text.Excerpt
import Mathlib.Data.List.DropRight

/-!
# Excerpts — what a message shows of a text

An excerpt is computed in three steps: the first line, that line without the blanks at its end, and the
beginning of it if it is long. The first two are described here without saying how they are found.

* `IsFirstLine`, `IsTrimmed`: how a text begins with its first line, and a line with what is kept of it;
* `IsFirstLine.eq`, `IsTrimmed.eq`: there is one such line and one such beginning;
* `excerpt_exact`: an excerpt is one short line that shows the first line of its text, and an excerpt of
  it shows the same.
-/

namespace JavaSyntax

/-! ## First lines -/

/-- Whether a line is the first of a text: it has no line feed in it, and the text is the line alone or
goes on with a line feed. A carriage return right before that line feed is not part of the line. -/
structure IsFirstLine (text line : List Char) : Prop where
  plain : '\n' ∉ line
  ends : text = line ∨ (∃ rest, text = line ++ '\n' :: rest ∧ line.getLast? ≠ some '\r') ∨
    ∃ rest, text = line ++ '\r' :: '\n' :: rest

variable {text line kept : List Char}

theorem bne_feed (plain : '\n' ∉ line) : ∀ c ∈ line, (c != '\n') = true := by
  intro c hc
  rw [bne_iff_ne]
  rintro rfl
  exact plain hc

theorem firstLine_of_plain (plain : '\n' ∉ text) : firstLine text = text := by
  have whole : text.takeWhile (· != '\n') = text := List.takeWhile_eq_self_iff.mpr (bne_feed plain)
  rw [firstLine, whole]
  simp

theorem firstLine_of_feed (plain : '\n' ∉ line) (rest : List Char) :
    firstLine (line ++ '\n' :: rest) =
      if line.getLast? = some '\r' then line.dropLast else line := by
  have taken : (line ++ '\n' :: rest).takeWhile (· != '\n') = line := by
    rw [List.takeWhile_append_of_pos (bne_feed plain), List.takeWhile_cons_of_neg (by decide),
      List.append_nil]
  rw [firstLine, taken]
  simp

/-- A text has one first line, the one that is found. -/
theorem IsFirstLine.eq (h : IsFirstLine text line) : firstLine text = line := by
  obtain ⟨plain, rfl | ⟨rest, rfl, open_⟩ | ⟨rest, rfl⟩⟩ := h
  · exact firstLine_of_plain plain
  · rw [firstLine_of_feed plain, if_neg open_]
  · -- the carriage return is found as the end of the line, and dropped
    have plain' : '\n' ∉ line ++ ['\r'] := by simpa using plain
    rw [List.append_cons, firstLine_of_feed plain', if_pos List.getLast?_concat,
      List.dropLast_concat]

theorem isFirstLine_firstLine (text : List Char) : IsFirstLine text (firstLine text) := by
  by_cases feed : '\n' ∈ text
  · obtain ⟨line, rest, rfl, plain⟩ := List.eq_append_cons_of_mem feed
    rw [firstLine_of_feed plain]
    split
    case isTrue returned =>
      obtain ⟨before, rfl⟩ := List.getLast?_eq_some_iff.mp returned
      have plain' : '\n' ∉ before := fun h => plain (List.mem_append_left _ h)
      rw [List.dropLast_concat]
      exact ⟨plain', .inr (.inr ⟨rest, by rw [← List.append_cons]⟩)⟩
    case isFalse open_ => exact ⟨plain, .inr (.inl ⟨rest, rfl, open_⟩)⟩
  · rw [firstLine_of_plain feed]
    exact ⟨feed, .inl rfl⟩

/-! ## Blanks at the end -/

/-- Whether a line is what is kept of it and white space after that, none of which is kept. -/
structure IsTrimmed (line kept : List Char) : Prop where
  blank : ∃ blank, line = kept ++ blank ∧ ∀ c ∈ blank, isWhiteSpace c = true
  last : ∀ c, kept.getLast? = some c → isWhiteSpace c = false

theorem trimEnd_eq (cs : List Char) : trimEnd cs = cs.rdropWhile isWhiteSpace := rfl

/-- White space after a text is not seen. -/
theorem trimEnd_append {blank : List Char} (h : ∀ c ∈ blank, isWhiteSpace c = true)
    (cs : List Char) : trimEnd (cs ++ blank) = trimEnd cs := by
  have all : ∀ c ∈ blank.reverse, isWhiteSpace c = true := by simpa using h
  rw [trimEnd, List.reverse_append, List.dropWhile_append_of_pos all]
  rfl

/-- A text that does not end in white space is kept. -/
theorem trimEnd_of_last (last : ∀ c, kept.getLast? = some c → isWhiteSpace c = false) :
    trimEnd kept = kept := by
  rw [trimEnd_eq, List.rdropWhile_eq_self_iff]
  intro some_
  rw [last _ (List.getLast?_eq_getLast_of_ne_nil some_)]
  exact Bool.false_ne_true

/-- What is kept of a line is what trimming gives. -/
theorem IsTrimmed.eq (h : IsTrimmed line kept) : trimEnd line = kept := by
  obtain ⟨⟨blank, rfl, white⟩, last⟩ := h
  rw [trimEnd_append white, trimEnd_of_last last]

theorem isTrimmed_trimEnd (line : List Char) : IsTrimmed line (trimEnd line) where
  blank := by
    refine ⟨line.rtakeWhile isWhiteSpace, ?_, fun c hc => List.mem_rtakeWhile_imp hc⟩
    rw [trimEnd_eq, List.rdropWhile_append_rtakeWhile]
  last := by
    intro c hc
    have some_ : line.rdropWhile isWhiteSpace ≠ [] := by
      intro none_
      rw [trimEnd_eq, none_] at hc
      cases hc
    have last := List.rdropWhile_last_not isWhiteSpace line some_
    rw [trimEnd_eq, List.getLast?_eq_getLast_of_ne_nil some_, Option.some.injEq] at hc
    rw [hc] at last
    exact Bool.eq_false_iff.mpr last

/-- What stands before a text is kept whole if it does not end in white space itself. -/
theorem trimEnd_append_left {before : List Char}
    (last : ∀ c, before.getLast? = some c → isWhiteSpace c = false) (cs : List Char) :
    trimEnd (before ++ cs) = before ++ trimEnd cs := by
  obtain ⟨⟨blank, whole, white⟩, kept⟩ := isTrimmed_trimEnd cs
  refine IsTrimmed.eq ⟨⟨blank, ?_, white⟩, ?_⟩
  · rw [List.append_assoc, ← whole]
  · intro c hc
    rw [List.getLast?_append] at hc
    rcases Option.or_eq_some_iff.mp hc with h | ⟨-, h⟩
    · exact kept c h
    · exact last c h

theorem trimEnd_eq_nil : trimEnd line = [] ↔ ∀ c ∈ line, isWhiteSpace c = true := by
  rw [trimEnd_eq, List.rdropWhile_eq_nil_iff]

/-! ## Short lines -/

namespace Excerpt

theorem length_shorten_le (line : List Char) : (shorten line).length ≤ limit := by
  unfold shorten
  split
  case isTrue short => exact short
  case isFalse long =>
    have points : ellipsis.length ≤ limit := by decide
    rw [List.length_append, List.length_take]
    omega

theorem shorten_of_le (short : line.length ≤ limit) : shorten line = line := if_pos short

theorem shorten_of_lt (long : limit < line.length) :
    shorten line = line.take (limit - ellipsis.length) ++ ellipsis :=
  if_neg (Nat.not_le_of_lt long)

theorem notMem_shorten (plain : '\n' ∉ line) : '\n' ∉ shorten line := by
  unfold shorten
  split
  · exact plain
  · rw [List.mem_append]
    rintro (taken | points)
    · exact plain (List.mem_of_mem_take taken)
    · exact absurd points (by decide)

/-- An excerpt ends as its line does, or in a point. -/
theorem last_shorten (last : ∀ c, line.getLast? = some c → isWhiteSpace c = false) :
    ∀ c, (shorten line).getLast? = some c → isWhiteSpace c = false := by
  unfold shorten
  split
  · exact last
  · intro c hc
    have point : ellipsis.getLast? = some '.' := rfl
    rw [List.getLast?_append, point, Option.some_or, Option.some.injEq] at hc
    rw [← hc]
    rfl

theorem shorten_eq_nil : shorten line = [] ↔ line = [] := by
  unfold shorten
  split
  case isTrue => rfl
  case isFalse long =>
    constructor
    · intro none_
      exact absurd (List.append_eq_nil_iff.mp none_).2 (by decide)
    · rintro rfl
      exact absurd (Nat.zero_le limit) long

end Excerpt

open Excerpt

/-! ## Excerpts -/

theorem toList_excerpt (text : String) :
    (excerpt text).toList = shorten (trimEnd (firstLine text.toList)) :=
  String.toList_ofList

/-- **An excerpt is a short line that begins as its text does.** A text has a first line, and what is
kept of it without white space at its end is the excerpt if it has at most 40 characters; of a longer
one the excerpt has the first 37 and three points. So an excerpt has no line feed, has at most 40
characters and does not end in white space; it is empty if and only if there is nothing but white space
in the first line; texts with the same first line have the same excerpt; and the excerpt of an excerpt
is that excerpt. -/
theorem excerpt_exact (text : String) :
    ∃ line kept, IsFirstLine text.toList line ∧ IsTrimmed line kept ∧
      (kept.length ≤ 40 → excerpt text = String.ofList kept) ∧
      (40 < kept.length → excerpt text = String.ofList (kept.take 37) ++ "...") ∧
      '\n' ∉ (excerpt text).toList ∧ (excerpt text).length ≤ 40 ∧
      (∀ c, (excerpt text).toList.getLast? = some c → isWhiteSpace c = false) ∧
      (excerpt text = "" ↔ ∀ c ∈ line, isWhiteSpace c = true) ∧
      (∀ other : String, IsFirstLine other.toList line → excerpt other = excerpt text) ∧
      excerpt (excerpt text) = excerpt text := by
  have first := isFirstLine_firstLine text.toList
  have trimmed := isTrimmed_trimEnd (firstLine text.toList)
  have plain : '\n' ∉ trimEnd (firstLine text.toList) := by
    obtain ⟨blank, whole, -⟩ := trimmed.blank
    intro feed
    apply first.plain
    rw [whole]
    exact List.mem_append_left _ feed
  have oneLine : '\n' ∉ (excerpt text).toList := by
    rw [toList_excerpt]
    exact notMem_shorten plain
  have short : (excerpt text).toList.length ≤ 40 := by
    rw [toList_excerpt]
    exact length_shorten_le _
  have last : ∀ c, (excerpt text).toList.getLast? = some c → isWhiteSpace c = false := by
    rw [toList_excerpt]
    exact last_shorten trimmed.last
  refine ⟨_, _, first, trimmed, ?whole, ?cut, oneLine, short, last, ?blank, ?same, ?again⟩
  case whole =>
    intro fits
    rw [excerpt, shorten_of_le fits]
  case cut =>
    intro long
    rw [excerpt, shorten_of_lt long, String.ofList_append]
    rfl
  case blank =>
    rw [← String.toList_eq_nil_iff, toList_excerpt, shorten_eq_nil, trimEnd_eq_nil]
  case same =>
    intro other same
    rw [excerpt, same.eq, excerpt]
  case again =>
    -- nothing is left to do: one line, without white space at its end, that is short
    rw [excerpt, firstLine_of_plain oneLine, trimEnd_of_last last, shorten_of_le short,
      String.ofList_toList]

/-- A line of 41 letters of two bytes each. -/
def longLine : List Char := List.replicate 41 'é'

theorem longLine_excerpt :
    let text := String.ofList (longLine ++ [' ', '\r', '\n', 'x'])
    ∃ line kept, IsFirstLine text.toList line ∧ IsTrimmed line kept ∧ 40 < kept.length ∧
      excerpt text = String.ofList (kept.take 37) ++ "..." ∧
      IsFirstLine (String.ofList (longLine ++ [' '])).toList line ∧
      excerpt (String.ofList (longLine ++ [' '])) = excerpt text := by
  intro text
  obtain ⟨line, kept, first, trimmed, -, cut, -, -, -, -, same, -⟩ := excerpt_exact text
  have found : firstLine (longLine ++ [' ', '\r', '\n', 'x']) = longLine ++ [' '] := by decide
  obtain rfl : longLine ++ [' '] = line := by
    rw [← first.eq, String.toList_ofList, found]
  obtain rfl : longLine = kept := by
    rw [← trimmed.eq]
    decide
  have other : IsFirstLine (String.ofList (longLine ++ [' '])).toList (longLine ++ [' ']) := by
    rw [String.toList_ofList]
    exact ⟨by decide, .inl rfl⟩
  exact ⟨_, _, first, trimmed, by decide, cut (by decide), other, same _ other⟩

end JavaSyntax
