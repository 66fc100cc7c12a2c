import JavaSyntax.Proofs.Lowering.Gives
import JavaSyntax.Proofs.Lowering.Room
import JavaSyntax.Proofs.Tree.Checked

/-!
# Places for one statement — branches, bodies and labels

Seven places of the grammar hold exactly one statement, and any statement may stand in each of them,
the semicolon alone included. A branch or a body is looked up by its field, whatever stands there. The
statement of a label is the second named child, and a semicolon is not named.

* `SolePlace.Holds`, `SolePlace.read?`: what stands in a place, and what is looked up there;
* `SolePlace.Frame`: what the other parts of the construct make around a statement;
* `SolePlace.run_iff`: a construct is lowered if and only if what is looked up in the place is, and its
  other parts are;
* `lower_solePlace`: which statements each place accepts;
* `labeledSemicolon_refused`: the semicolon after a label is refused.
-/

namespace JavaSyntax

open Lowering

/-- The places that hold exactly one statement. -/
inductive SolePlace where
  | thenBranch
  | elseBranch
  | whileBody
  | doBody
  | forBody
  | forEachBody
  | labeled
  deriving DecidableEq, Repr

namespace SolePlace

/-- The tag of the construct that has the place. -/
def tag : SolePlace → String
  | thenBranch | elseBranch => "if_statement"
  | whileBody => "while_statement"
  | doBody => "do_statement"
  | forBody => "for_statement"
  | forEachBody => "enhanced_for_statement"
  | labeled => "labeled_statement"

/-- The name under which the grammar gives the statement. That of a label has none. -/
def field? : SolePlace → Option String
  | thenBranch => some "consequence"
  | elseBranch => some "alternative"
  | whileBody | doBody | forBody | forEachBody => some "body"
  | labeled => none

/-- Whether a node stands in the place. The statement of a label is the last child, and between the
label and the statement there are tokens alone. -/
def Holds (place : SolePlace) (raw b : RawNode) : Prop :=
  match place.field? with
  | some name => raw.field? name = some b
  | none => ∃ label between, raw.children = label :: (between ++ [b]) ∧ label.isNamed ∧
      ∀ t ∈ between, t.isNamed = false

/-- What is looked up in the place. -/
def read? (place : SolePlace) (raw : RawNode) : Option RawNode :=
  match place.field? with
  | some name => raw.field? name
  | none => raw.namedChildren[1]?

section

variable {place : SolePlace} {raw b : RawNode}

theorem Holds.namedChildren (held : labeled.Holds raw b) :
    ∃ label, raw.namedChildren = label :: [b].filter RawNode.isNamed := by
  obtain ⟨label, between, children, named, tokens⟩ := held
  have none : between.filter RawNode.isNamed = [] := by simpa using tokens
  refine ⟨label, ?_⟩
  rw [RawNode.namedChildren, children, List.filter_cons_of_pos named, List.filter_append, none,
    List.nil_append]

/-- What stands in a place is looked up there, unless it is a token after a label. -/
theorem Holds.read?_eq (held : place.Holds raw b) (named : place = labeled → b.isNamed) :
    place.read? raw = some b := by
  cases place
  case labeled =>
    obtain ⟨label, children⟩ := held.namedChildren
    rw [List.filter_cons_of_pos (named rfl)] at children
    simp [read?, field?, children]
  all_goals exact held

end

/-! ## What stands around the statement -/

/-- The other parts of a construct that has the place. -/
inductive Frame : SolePlace → Type where
  | thenBranch (test : Expression) (otherwise : Option Statement) : Frame thenBranch
  | elseBranch (test : Expression) (met : Statement) : Frame elseBranch
  | whileBody (test : Expression) : Frame whileBody
  | doBody (test : Expression) : Frame doBody
  | forBody (initializer : List Statement) (test : Option Expression)
      (update : List ExpressionStatement) : Frame forBody
  | forEachBody (element : VariableDeclaration) (iterable : Expression) : Frame forEachBody
  | labeled (label : Identifier) : Frame labeled

/-- The construct with a statement in its place. -/
def Frame.plug (span : Span) (s : Statement) : {place : SolePlace} → Frame place → Statement
  | _, thenBranch test otherwise => .ifElse span test s otherwise
  | _, elseBranch test met => .ifElse span test met (some s)
  | _, whileBody test => .whileLoop span test s
  | _, doBody test => .doLoop span s test
  | _, forBody initializer test update => .forLoop span initializer test update s
  | _, forEachBody element iterable => .forEach span element iterable s
  | _, labeled label => .labeled span label s

/-- Whether the other parts of a raw construct are lowered to those of a frame. -/
def Frame.Given (source : String) (below : Answers) (raw : RawNode) :
    {place : SolePlace} → Frame place → Prop
  | _, thenBranch test otherwise =>
    (condition raw).run below = .ok (some test) ∧
      (optional statement (raw.field? "alternative")).run below = .ok otherwise
  | _, elseBranch test met =>
    (condition raw).run below = .ok (some test) ∧
      (optional statement (raw.field? "consequence")).run below = .ok (some met)
  | _, whileBody test | _, doBody test => (condition raw).run below = .ok (some test)
  | _, forBody initializer test update =>
    (gather (forInitializer source) (raw.fields "init")).run below = .ok initializer ∧
      (optional expression (raw.field? "condition")).run below = .ok test ∧
      (each bareExpression (raw.fields "update")).run below = .ok update
  | _, forEachBody element iterable =>
    (declaredVariable source raw none).run below = .ok element ∧
      (optional expression (raw.field? "value")).run below = .ok (some iterable)
  | _, labeled label => raw.namedChildren.head?.map (identifier source) = some label

section

variable {source : String} {below : Answers} {place : SolePlace} {raw b : RawNode} {t : Statement}

theorem run_statement_some {made : Option Statement} :
    (optional statement (some b)).run below = .ok made ↔
      ∃ s, below .statement b = .ok s ∧ some s = made := by
  rw [Lowering.optional, run_bind_eq_ok, statement, run_request]
  simp only [run_pure_eq_ok]

variable (source below raw b t) in
/-- Whether the parts of a construct make a statement: a frame, with what a node is lowered to in its
place. -/
def Makes (place : SolePlace) : Prop :=
  ∃ (frame : Frame place) (s : Statement), frame.Given source below raw ∧
    below .statement b = .ok s ∧ t = frame.plug raw.span s

theorem run_thenBranch (tag : raw.tag = "if_statement") (read : raw.field? "consequence" = some b) :
    (namedStatementBody source raw).run below = .ok t ↔ thenBranch.Makes source below raw b t := by
  simp only [namedStatementBody, tag, run_bind_eq_ok, run_checked_eq_ok, Checked.ifElse_eq_ok, read,
    run_statement_some]
  constructor
  · rintro ⟨_, tested, _, ⟨s, lowered, rfl⟩, otherwise, unmet, test, rfl, _, ⟨⟩, rfl⟩
    exact ⟨.thenBranch test otherwise, s, ⟨tested, unmet⟩, lowered, rfl⟩
  · rintro ⟨frame, s, given, lowered, rfl⟩
    cases frame with | thenBranch test otherwise =>
    obtain ⟨tested, unmet⟩ := given
    exact ⟨some test, tested, some s, ⟨s, lowered, rfl⟩, otherwise, unmet, test, rfl, s, rfl, rfl⟩

theorem run_elseBranch (tag : raw.tag = "if_statement") (read : raw.field? "alternative" = some b) :
    (namedStatementBody source raw).run below = .ok t ↔ elseBranch.Makes source below raw b t := by
  simp only [namedStatementBody, tag, run_bind_eq_ok, run_checked_eq_ok, Checked.ifElse_eq_ok, read,
    run_statement_some]
  constructor
  · rintro ⟨_, tested, _, given, _, ⟨s, lowered, rfl⟩, test, rfl, met, rfl, rfl⟩
    exact ⟨.elseBranch test met, s, ⟨tested, given⟩, lowered, rfl⟩
  · rintro ⟨frame, s, given, lowered, rfl⟩
    cases frame with | elseBranch test met =>
    obtain ⟨tested, given⟩ := given
    exact ⟨some test, tested, some met, given, some s, ⟨s, lowered, rfl⟩, test, rfl, met, rfl, rfl⟩

theorem run_whileBody (tag : raw.tag = "while_statement") (read : raw.field? "body" = some b) :
    (namedStatementBody source raw).run below = .ok t ↔ whileBody.Makes source below raw b t := by
  simp only [namedStatementBody, tag, run_bind_eq_ok, run_checked_eq_ok, Checked.whileLoop_eq_ok, read,
    run_statement_some]
  constructor
  · rintro ⟨_, tested, _, ⟨s, lowered, rfl⟩, test, rfl, _, ⟨⟩, rfl⟩
    exact ⟨.whileBody test, s, tested, lowered, rfl⟩
  · rintro ⟨frame, s, tested, lowered, rfl⟩
    cases frame with | whileBody test =>
    exact ⟨some test, tested, some s, ⟨s, lowered, rfl⟩, test, rfl, s, rfl, rfl⟩

theorem run_doBody (tag : raw.tag = "do_statement") (read : raw.field? "body" = some b) :
    (namedStatementBody source raw).run below = .ok t ↔ doBody.Makes source below raw b t := by
  simp only [namedStatementBody, tag, run_bind_eq_ok, run_checked_eq_ok, Checked.doLoop_eq_ok, read,
    run_statement_some]
  constructor
  · rintro ⟨_, ⟨s, lowered, rfl⟩, _, tested, _, ⟨⟩, test, rfl, rfl⟩
    exact ⟨.doBody test, s, tested, lowered, rfl⟩
  · rintro ⟨frame, s, tested, lowered, rfl⟩
    cases frame with | doBody test =>
    exact ⟨some s, ⟨s, lowered, rfl⟩, some test, tested, s, rfl, test, rfl, rfl⟩

theorem run_forBody (tag : raw.tag = "for_statement") (read : raw.field? "body" = some b) :
    (namedStatementBody source raw).run below = .ok t ↔ forBody.Makes source below raw b t := by
  simp only [namedStatementBody, tag, forLoop, run_bind_eq_ok, run_checked_eq_ok,
    Checked.forLoop_eq_ok, read, run_statement_some]
  constructor
  · rintro ⟨initializer, started, test, tested, update, updated, _, ⟨s, lowered, rfl⟩, _, ⟨⟩, rfl⟩
    exact ⟨.forBody initializer test update, s, ⟨started, tested, updated⟩, lowered, rfl⟩
  · rintro ⟨frame, s, given, lowered, rfl⟩
    cases frame with | forBody initializer test update =>
    obtain ⟨started, tested, updated⟩ := given
    exact ⟨initializer, started, test, tested, update, updated, some s, ⟨s, lowered, rfl⟩, s, rfl, rfl⟩

theorem run_forEachBody (tag : raw.tag = "enhanced_for_statement")
    (read : raw.field? "body" = some b) :
    (namedStatementBody source raw).run below = .ok t ↔ forEachBody.Makes source below raw b t := by
  simp only [namedStatementBody, tag, forEachLoop, run_bind_eq_ok, run_checked_eq_ok,
    Checked.forEach_eq_ok, read, run_statement_some]
  constructor
  · rintro ⟨element, declared, _, ranged, _, ⟨s, lowered, rfl⟩, _, ⟨⟩, iterable, rfl, _, ⟨⟩, rfl⟩
    exact ⟨.forEachBody element iterable, s, ⟨declared, ranged⟩, lowered, rfl⟩
  · rintro ⟨frame, s, given, lowered, rfl⟩
    cases frame with | forEachBody element iterable =>
    obtain ⟨declared, ranged⟩ := given
    exact ⟨element, declared, some iterable, ranged, some s, ⟨s, lowered, rfl⟩, element, rfl,
      iterable, rfl, s, rfl, rfl⟩

theorem run_labeled (tag : raw.tag = "labeled_statement") (read : raw.namedChildren[1]? = some b) :
    (namedStatementBody source raw).run below = .ok t ↔ labeled.Makes source below raw b t := by
  simp only [namedStatementBody, tag, run_bind_eq_ok, run_checked_eq_ok, Checked.labeled_eq_ok, read,
    run_statement_some]
  constructor
  · rintro ⟨_, ⟨s, lowered, rfl⟩, label, named, _, ⟨⟩, rfl⟩
    exact ⟨.labeled label, s, named, lowered, rfl⟩
  · rintro ⟨frame, s, named, lowered, rfl⟩
    cases frame with | labeled label =>
    exact ⟨some s, ⟨s, lowered, rfl⟩, label, named, s, rfl, rfl⟩

/-- **A construct is lowered if and only if its statement and its other parts are**, and what it is
lowered to has the statement in its place. -/
theorem run_iff (tag : raw.tag = place.tag) (read : place.read? raw = some b) :
    (namedStatementBody source raw).run below = .ok t ↔ place.Makes source below raw b t := by
  cases place with
  | thenBranch => exact run_thenBranch tag read
  | elseBranch => exact run_elseBranch tag read
  | whileBody => exact run_whileBody tag read
  | doBody => exact run_doBody tag read
  | forBody => exact run_forBody tag read
  | forEachBody => exact run_forEachBody tag read
  | labeled => exact run_labeled tag read

end

end SolePlace

variable {source : String} {place : SolePlace} {raw b : RawNode}

/-- What a construct with a node in its place is lowered to, one level above its parts. -/
theorem lower_holding (named : raw.isNamed) (tag : raw.tag = place.tag) (held : place.Holds raw b)
    (readable : place = .labeled → b.isNamed) {limit room : Nat} {t : Statement} :
    lower source limit (room + 1) .statement raw = .ok t ↔
      place.Makes source (lower source limit room) raw b t := by
  rw [← SolePlace.run_iff tag (held.read?_eq readable), lower_succ, body, statementBody, if_pos named]

/-- A label that is alone among the named children is refused. -/
theorem lower_label_alone {label : RawNode} (named : raw.isNamed) (tag : raw.tag = "labeled_statement")
    (alone : raw.namedChildren = [label]) {limit room : Nat} :
    lower source limit (room + 1) .statement raw =
      .error (.tree (.missingChild .labeledStatement "statement")) := by
  rw [lower_succ, body, statementBody, if_pos named]
  simp only [namedStatementBody, tag, alone]
  rfl

/-- **Which statements the places for one statement accept.** A branch or the body of a loop accepts
every statement, the semicolon alone included, and a label every statement but that: as soon as the
statement and the other parts are lowered with some room, the construct is lowered with any more, to its
node with the statement in the place; and it is lowered to nothing else. After a label a token is
refused as a statement that is missing. -/
theorem lower_solePlace (named : raw.isNamed) (tag : raw.tag = place.tag)
    (held : place.Holds raw b) :
    ((place = .labeled → b.isNamed) →
      (∀ (limit room : Nat) (frame : place.Frame) (s : Statement),
        frame.Given source (lower source limit room) raw →
        lower source limit room .statement b = .ok s → ∀ limit' room', room < room' →
          lower source limit' room' .statement raw = .ok (frame.plug raw.span s)) ∧
      ∀ (limit room : Nat) (t : Statement), lower source limit (room + 1) .statement raw = .ok t →
        ∃ (frame : place.Frame) (s : Statement), frame.Given source (lower source limit room) raw ∧
          lower source limit room .statement b = .ok s ∧ t = frame.plug raw.span s) ∧
    (place = .labeled → b.isNamed = false → ∀ limit room : Nat,
      lower source limit (room + 1) .statement raw =
        .error (.tree (.missingChild .labeledStatement "statement"))) := by
  refine ⟨fun readable => ⟨fun limit room frame s given lowered limit' room' more => ?_,
    fun limit room t => (lower_holding named tag held readable).mp⟩, ?_⟩
  · have made := (lower_holding named tag held readable).mpr ⟨frame, s, given, lowered, rfl⟩
    exact (lower_settles (Nat.succ_le_of_lt more) .statement raw).ok made
  · rintro rfl unnamed limit room
    obtain ⟨label, children⟩ := held.namedChildren
    rw [List.filter_cons_of_neg (by simp [unnamed]), List.filter_nil] at children
    exact lower_label_alone named tag children

open RawNode (onLine)

/-- The loop `while (b) ;` in `a: while (b) ;`. -/
def emptyLoop : RawNode :=
  onLine "while_statement" true none 3 14
    [onLine "while" false none 3 8 [],
     onLine "parenthesized_expression" true (some "condition") 9 12
      [onLine "(" false none 9 10 [],
       onLine "identifier" true none 10 11 [],
       onLine ")" false none 11 12 []],
     onLine ";" false (some "body") 13 14 []]

def labeledLoop : RawNode :=
  onLine "labeled_statement" true none 0 14
    [onLine "identifier" true none 0 1 [], onLine ":" false none 1 2 [], emptyLoop]

theorem labeledLoop_accepted : ∃ (semicolon : RawNode) (test : Expression) (label : Identifier),
    SolePlace.whileBody.Holds emptyLoop semicolon ∧ SolePlace.labeled.Holds labeledLoop emptyLoop ∧
      ∀ limit room, 2 < room →
        lower "a: while (b) ;" limit room .statement labeledLoop =
          .ok (.labeled labeledLoop.span label
            (.whileLoop emptyLoop.span test (.empty semicolon.span))) := by
  let semicolon := onLine ";" false (some "body") 13 14 []
  let test : Expression :=
    .identifier (identifier "a: while (b) ;" (onLine "identifier" true none 10 11 []))
  let label := identifier "a: while (b) ;" (onLine "identifier" true none 0 1 [])
  have inside : SolePlace.whileBody.Holds emptyLoop semicolon := rfl
  have outside : SolePlace.labeled.Holds labeledLoop emptyLoop :=
    ⟨_, [onLine ":" false none 1 2 []], rfl, rfl, by decide⟩
  have loop := ((lower_solePlace rfl rfl inside).1 nofun).1 0 1 (.whileBody test) _ rfl rfl
  have whole := ((lower_solePlace rfl rfl outside).1 fun _ => rfl).1 0 2 (.labeled label) _ rfl
    (loop 0 2 (by decide))
  exact ⟨semicolon, test, label, inside, outside, whole⟩

/-- The raw tree of `a: ;`. -/
def labeledSemicolon : RawNode :=
  onLine "labeled_statement" true none 0 4
    [onLine "identifier" true none 0 1 [],
     onLine ":" false none 1 2 [],
     onLine ";" false none 3 4 []]

/-- **The semicolon after a label is refused.** It is the empty statement, and the label is lowered, but
the two together are not, however much may nest. -/
theorem labeledSemicolon_refused : ∃ semicolon : RawNode,
    labeledSemicolon.isNamed ∧ labeledSemicolon.tag = SolePlace.labeled.tag ∧
      SolePlace.labeled.Holds labeledSemicolon semicolon ∧
      lower "a: ;" 64 63 .statement semicolon = .ok (.empty semicolon.span) ∧
      (∃ frame : SolePlace.labeled.Frame,
        frame.Given "a: ;" (lower "a: ;" 64 63) labeledSemicolon) ∧
      ∀ limit room s, lower "a: ;" limit room .statement labeledSemicolon ≠ .ok s := by
  have held : SolePlace.labeled.Holds labeledSemicolon (onLine ";" false none 3 4 []) :=
    ⟨_, [onLine ":" false none 1 2 []], rfl, rfl, by decide⟩
  have label : (SolePlace.Frame.labeled (identifier "a: ;" (onLine "identifier" true none 0 1 []))).Given
      "a: ;" (lower "a: ;" 64 63) labeledSemicolon := rfl
  refine ⟨_, rfl, rfl, held, rfl, ⟨_, label⟩, ?_⟩
  intro limit room s h
  cases room with
  | zero => cases h
  | succ room =>
    rw [lower_label_alone rfl rfl rfl] at h
    cases h

end JavaSyntax
