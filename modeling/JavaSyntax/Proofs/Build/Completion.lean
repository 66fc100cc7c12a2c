import JavaSyntax.Build
import JavaSyntax.Proofs.Raw.Damage
import JavaSyntax.Proofs.Text.Excerpt

/-!
# Completion — the semicolon that an expression is given

The text of an expression is made a statement by a semicolon on a line of its own, unless it ends in
one. Whether it does is decided on its last characters, with no regard to comments. So a line comment at
the end swallows nothing as long as it does not end in a semicolon itself.

* `uncommented`: what a text holds outside its line comments;
* `ClosesWithSemicolon`: texts that end in a semicolon, white space aside;
* `asStatement_of_closed`, `asStatement_of_open`: which texts are taken as they are;
* `statement_of_commented`: what an expression with a line comment after it is completed to;
* `closingSemicolon_swallowed`: a comment for which the semicolon is missing.
-/

namespace JavaSyntax

/-! ## Line comments -/

/-- What a text holds outside its line comments, each of which goes from two slashes to the next line
feed. At its start a comment may be open. The text has no literals and no other comments. -/
def uncommented (opened : Bool) : List Char → List Char
  | [] => []
  | c :: rest =>
    if opened then
      if c = '\n' then c :: uncommented false rest else uncommented true rest
    else if c = '/' ∧ rest.head? = some '/' then uncommented true rest
    else c :: uncommented false rest

/-- A comment that is open goes on to the next line feed. -/
theorem uncommented_true (cs : List Char) :
    uncommented true cs = uncommented false (cs.dropWhile (· != '\n')) := by
  induction cs with
  | nil => rfl
  | cons c rest ih =>
    by_cases feed : c = '\n'
    · rw [List.dropWhile_cons_of_neg (by simp [feed]), uncommented, if_pos rfl, if_pos feed, feed,
        uncommented]
      simp
    · rw [List.dropWhile_cons_of_pos (by simpa using feed), uncommented, if_pos rfl, if_neg feed, ih]

variable {e c t : List Char}

theorem uncommented_append (plain : '/' ∉ e) (cs : List Char) :
    uncommented false (e ++ cs) = e ++ uncommented false cs := by
  induction e with
  | nil => rfl
  | cons x rest ih =>
    rw [List.mem_cons, not_or] at plain
    have other : ¬(x = '/' ∧ (rest ++ cs).head? = some '/') := fun h => plain.1 h.1.symm
    rw [List.cons_append, uncommented, if_neg Bool.false_ne_true, if_neg other, ih plain.2,
      List.cons_append]

theorem uncommented_of_noSlash (plain : '/' ∉ e) : uncommented false e = e := by
  have whole := uncommented_append plain []
  rwa [List.append_nil, uncommented, List.append_nil] at whole

/-- Of a text with one line comment the text before it is left, and what comes from the end of its line
on. -/
theorem uncommented_comment (before : '/' ∉ e) (line : '\n' ∉ c) (after : '/' ∉ t) :
    uncommented false (e ++ '/' :: '/' :: (c ++ t)) = e ++ t.dropWhile (· != '\n') := by
  have opened : uncommented false ('/' :: '/' :: (c ++ t)) = uncommented true (c ++ t) := by
    rw [uncommented, if_neg Bool.false_ne_true, if_pos ⟨rfl, rfl⟩, uncommented, if_pos rfl,
      if_neg (by decide)]
  have rest : '/' ∉ t.dropWhile (· != '\n') := fun h => after ((List.dropWhile_sublist _).mem h)
  rw [uncommented_append before, opened, uncommented_true,
    List.dropWhile_append_of_pos (bne_feed line), uncommented_of_noSlash rest]

/-- What is supplied on a line of its own is reached from every text. -/
theorem dropWhile_feed (w t : List Char) :
    (w ++ ['\n'] ++ t).dropWhile (· != '\n') = (w ++ ['\n']).dropWhile (· != '\n') ++ t := by
  have reached : (w ++ ['\n']).dropWhile (· != '\n') ≠ [] := by
    rw [Ne, List.dropWhile_eq_nil_iff]
    intro all
    exact absurd (all '\n' (List.mem_append_right _ (List.mem_singleton_self _))) (by decide)
  rw [List.dropWhile_append, if_neg]
  rwa [List.isEmpty_iff]

section

variable {w : List Char} (before : '/' ∉ e) (line : '\n' ∉ c) (blank : ∀ x ∈ w, isWhiteSpace x = true)

include before line blank

/-- Outside a comment at the end of a text there is only the text before it and white space. -/
theorem uncommented_trailing : ∃ gap, (∀ x ∈ gap, isWhiteSpace x = true) ∧
    uncommented false (e ++ '/' :: '/' :: (c ++ w)) = e ++ gap := by
  have noSlash : '/' ∉ w := fun h => absurd (blank _ h) (by decide)
  refine ⟨w.dropWhile (· != '\n'), ?_, uncommented_comment before line noSlash⟩
  intro x hx
  exact blank x ((List.dropWhile_sublist _).mem hx)

/-- A semicolon on the next line is outside the comment. -/
theorem uncommented_completed : ∃ gap, (∀ x ∈ gap, isWhiteSpace x = true) ∧
    uncommented false (e ++ '/' :: '/' :: (c ++ (w ++ ['\n'] ++ [';']))) = e ++ gap ++ [';'] := by
  have white : ∀ x ∈ w ++ ['\n'], isWhiteSpace x = true := by
    intro x hx
    rcases List.mem_append.mp hx with hx | hx
    · exact blank x hx
    · rw [List.mem_singleton.mp hx]
      rfl
  have noSlash : '/' ∉ w ++ ['\n'] ++ [';'] := by
    rw [List.mem_append, not_or]
    exact ⟨fun h => absurd (white _ h) (by decide), by decide⟩
  refine ⟨(w ++ ['\n']).dropWhile (· != '\n'), ?_, ?_⟩
  · intro x hx
    exact white x ((List.dropWhile_sublist _).mem hx)
  · rw [uncommented_comment before line noSlash, dropWhile_feed, List.append_assoc]

end

/-! ## Semicolons at the end -/

/-- Whether a text ends in a semicolon, white space after it aside. -/
def ClosesWithSemicolon (cs : List Char) : Prop :=
  ∃ before blank, cs = before ++ ';' :: blank ∧ ∀ x ∈ blank, isWhiteSpace x = true

theorem getLast?_trimEnd_iff :
    (trimEnd c).getLast? = some ';' ↔ ClosesWithSemicolon c := by
  constructor
  · intro last
    obtain ⟨blank, whole, white⟩ := (isTrimmed_trimEnd c).blank
    obtain ⟨before, kept⟩ := List.getLast?_eq_some_iff.mp last
    exact ⟨before, blank, by rw [whole, kept, ← List.append_cons], white⟩
  · rintro ⟨before, blank, rfl, white⟩
    have last : ∀ x, (before ++ [';']).getLast? = some x → isWhiteSpace x = false := by
      intro x hx
      rw [List.getLast?_concat, Option.some.injEq] at hx
      rw [← hx]
      rfl
    rw [List.append_cons, trimEnd_append white, trimEnd_of_last last, List.getLast?_concat]

instance (cs : List Char) : Decidable (ClosesWithSemicolon cs) :=
  decidable_of_iff _ getLast?_trimEnd_iff

theorem asStatement_of_closed {source : String} (h : ClosesWithSemicolon source.toList) :
    asStatement source = source := by
  rw [asStatement, if_pos (beq_iff_eq.mpr (getLast?_trimEnd_iff.mpr h))]

theorem asStatement_of_open {source : String} (h : ¬ClosesWithSemicolon source.toList) :
    asStatement source = source ++ "\n;" := by
  rw [asStatement, if_neg]
  rw [beq_iff_eq, getLast?_trimEnd_iff]
  exact h

/-- A text whose last line is a comment ends as the comment does. -/
theorem closesWithSemicolon_comment {w : List Char} (blank : ∀ x ∈ w, isWhiteSpace x = true) :
    ClosesWithSemicolon (e ++ '/' :: '/' :: (c ++ w)) ↔ ClosesWithSemicolon c := by
  have slashed : (e ++ ['/', '/']).getLast? = some '/' := by simp
  have solid : ∀ x, (e ++ ['/', '/']).getLast? = some x → isWhiteSpace x = false := by
    intro x hx
    rw [slashed, Option.some.injEq] at hx
    rw [← hx]
    rfl
  have trimmed : trimEnd (e ++ '/' :: '/' :: (c ++ w)) = (e ++ ['/', '/']) ++ trimEnd c := by
    rw [← trimEnd_append blank c, ← trimEnd_append_left solid]
    simp
  rw [← getLast?_trimEnd_iff, ← getLast?_trimEnd_iff, trimmed, List.getLast?_append, slashed]
  cases (trimEnd c).getLast? with
  | none => decide
  | some x => rfl

/-! ## Expressions with a comment after them -/

/-- **A comment swallows no semicolon unless it ends in one.** An expression without slashes and
semicolons is followed by a line comment and white space. If the comment does not end in a semicolon,
the text is completed on a line of its own, and outside the comment it holds the expression, white space
and a semicolon after that. If the comment ends in a semicolon, the text is taken as it is, and outside
the comment it holds the expression and white space alone. -/
theorem statement_of_commented (parse : String → Except SyntaxError ParseResult) (e c w : String)
    (noSlash : '/' ∉ e.toList) (noSemicolon : ';' ∉ e.toList) (oneLine : '\n' ∉ c.toList)
    (blank : ∀ x ∈ w.toList, isWhiteSpace x = true) :
    let source := e ++ "//" ++ c ++ w
    (¬ClosesWithSemicolon c.toList →
      parseExpression parse source = (do buildExpression {} (← parse (source ++ "\n;"))) ∧
      ∃ gap, (∀ x ∈ gap, isWhiteSpace x = true) ∧
        uncommented false (source ++ "\n;").toList = e.toList ++ gap ++ [';']) ∧
    (ClosesWithSemicolon c.toList →
      parseExpression parse source = (do buildExpression {} (← parse source)) ∧
      (∃ gap, (∀ x ∈ gap, isWhiteSpace x = true) ∧
        uncommented false source.toList = e.toList ++ gap) ∧
      ';' ∉ uncommented false source.toList) := by
  intro source
  have text : source.toList = e.toList ++ '/' :: '/' :: (c.toList ++ w.toList) := by
    simp [source]
  have completed : (source ++ "\n;").toList =
      e.toList ++ '/' :: '/' :: (c.toList ++ (w.toList ++ ['\n'] ++ [';'])) := by
    rw [String.toList_append, text]
    simp
  have closes : ClosesWithSemicolon source.toList ↔ ClosesWithSemicolon c.toList := by
    rw [text, closesWithSemicolon_comment blank]
  constructor
  · intro opened
    rw [parseExpression, asStatement_of_open (closes.not.mpr opened), completed]
    exact ⟨rfl, uncommented_completed noSlash oneLine blank⟩
  · intro closed
    obtain ⟨gap, white, outside⟩ := uncommented_trailing noSlash oneLine blank
    rw [parseExpression, asStatement_of_closed (closes.mpr closed), text, outside]
    refine ⟨rfl, ⟨gap, white, rfl⟩, ?_⟩
    rw [List.mem_append, not_or]
    exact ⟨noSemicolon, fun h => absurd (white _ h) (by decide)⟩

/-! ## Samples -/

/-- The line comment in a text of 13 characters that starts with `a //`. -/
def nineComment : RawNode :=
  .node ⟨"line_comment", true, false, false, true, false, none, 2, 13, ⟨0, 2⟩, ⟨0, 13⟩⟩ []

/-- The name in such a text, skipped. -/
def skippedName : RawNode :=
  .node ⟨"ERROR", true, true, false, true, true, none, 0, 1, ⟨0, 0⟩, ⟨0, 1⟩⟩
    [.onLine "identifier" true none 0 1 []]

/-- The raw tree of `a //` and nine more characters, a statement that nothing ends. -/
def unendedName : RawNode :=
  .node ⟨"program", true, false, false, false, true, none, 0, 13, ⟨0, 0⟩, ⟨0, 13⟩⟩
    [skippedName, nineComment]

/-- The raw tree of the same text with a semicolon on the next line. -/
def endedName : RawNode :=
  .node ⟨"program", true, false, false, false, false, none, 0, 15, ⟨0, 0⟩, ⟨1, 1⟩⟩
    [.node ⟨"expression_statement", true, false, false, false, false, none, 0, 15, ⟨0, 0⟩,
        ⟨1, 1⟩⟩
      [.onLine "identifier" true none 0 1 [],
       nineComment,
       .node ⟨";", false, false, false, false, false, none, 14, 15, ⟨1, 0⟩, ⟨1, 1⟩⟩ []]]

/-- What a grammar gives for these texts. -/
def parseName (text : String) : Except SyntaxError ParseResult :=
  .ok ⟨text, if '\n' ∈ text.toList then endedName else unendedName⟩

theorem trailingComment_completed :
    ¬ClosesWithSemicolon " trailing".toList ∧
    parseExpression parseName "a // trailing" =
      (do buildExpression {} (← parseName "a // trailing\n;")) ∧
    (∃ name, parseExpression parseName "a // trailing" = .ok (.identifier name)) ∧
    ClosesWithSemicolon " closing;".toList ∧
    ';' ∉ uncommented false "a // closing;".toList := by
  have opened : ¬ClosesWithSemicolon " trailing".toList := by decide
  have closed : ClosesWithSemicolon " closing;".toList := ⟨" closing".toList, [], rfl, nofun⟩
  have noBlank : ∀ x ∈ "".toList, isWhiteSpace x = true := by
    intro x hx
    exact absurd hx List.not_mem_nil
  obtain ⟨completed, -⟩ := (statement_of_commented parseName "a " " trailing" ""
    (by decide) (by decide) (by decide) noBlank).1 opened
  obtain ⟨-, -, missing⟩ := (statement_of_commented parseName "a " " closing;" ""
    (by decide) (by decide) (by decide) noBlank).2 closed
  exact ⟨opened, completed, ⟨_, completed.trans rfl⟩, closed, missing⟩

theorem errors_unendedName (text : String) :
    (ParseResult.mk text unendedName).errors = [skippedName.damageReport text] := by
  have skipped : skippedName.damage = [skippedName] := by
    rw [RawNode.damage_eq, if_pos (by decide)]
  have found : unendedName.damage = [skippedName] := by
    rw [RawNode.damage_eq, if_neg (by decide), if_pos (by decide)]
    exact (List.flatMap_singleton RawNode.damage skippedName).trans skipped
  rw [ParseResult.errors, found, List.map_singleton]

/-- **A comment that ends in a semicolon swallows the one that is missing.** `a // closing;` is taken
as it is, although it holds no semicolon outside the comment, and refused; with a full stop in place of
that semicolon it is a name. -/
theorem closingSemicolon_swallowed :
    asStatement "a // closing;" ≠ "a // closing;" ++ "\n;" ∧
    ';' ∉ uncommented false (asStatement "a // closing;").toList ∧
    parseExpression parseName "a // closing;" =
      .error (.syntaxErrors 1 1 1 "unexpected `a`") ∧
    ∃ name, parseExpression parseName "a // closing." = .ok (.identifier name) := by
  have asItIs : asStatement "a // closing;" = "a // closing;" := by decide
  have refused : buildExpression {} ⟨"a // closing;", unendedName⟩ =
      .error (.syntaxErrors 1 1 1 "unexpected `a`") := by
    have refusal : (ParseResult.mk "a // closing;" unendedName).refusal =
        .syntaxErrors 1 1 1 "unexpected `a`" := by
      rw [ParseResult.refusal, errors_unendedName]
      rfl
    rw [buildExpression, build, checkDamage, refusal]
    rfl
  refine ⟨?_, ?_, ?_, _, rfl⟩
  · rw [asItIs]
    decide
  · rw [asItIs]
    decide
  · rw [parseExpression, asItIs]
    exact refused

end JavaSyntax
