import JavaSyntax.Proofs.Lowering.Rank

/-!
# Variables — a declaration of several variables

A declaration has modifiers and a type once, and any number of declarators. It declares one variable for
each of them, in their order, and the variables stand where the declaration stood: among the members of
a type, the statements of a block or of a case, or the initializers of a `for`.

* `Initializes`: what a value is lowered to, where bare braces are an array without a type;
* `Declares`: the variable of one declarator;
* `StandsIn`: where a declaration stands in the body of a type;
* `variables_of_declaration`: what a declaration makes, where it stands and where only one statement may.
-/

namespace JavaSyntax

namespace Lowering

variable {source : String} {limit room : Nat} {raw : RawNode}

/-! ## Values -/

/-- What the value of a declarator or an element between braces is lowered to, where `room` more levels
may nest: bare braces are an array of their elements without a type, which are one level deeper, and
anything else is an expression. -/
def Initializes (source : String) (limit : Nat) : (room : Nat) → RawNode → Expression → Prop
  | 0, _, _ => False
  | room + 1, raw, e =>
    if raw.tag = "array_initializer" then
      ∃ es, List.Forall₂ (Initializes source limit room) raw.namedChildren es ∧
        e = .newArray raw.span none [] es
    else lower source limit (room + 1) .expression raw = .ok e

/-- Braces within braces use up one level each, so the induction is on the room. -/
theorem gives_initializer_iff {e : Expression} :
    Gives (lower source limit room) initializer raw e ↔ Initializes source limit room raw e := by
  induction room generalizing raw e with
  | zero =>
    unfold Gives initializer expression
    rw [Initializes]
    split <;> rw [run_request] <;> exact ⟨nofun, False.elim⟩
  | succ room ih =>
    unfold Gives initializer expression
    rw [Initializes]
    by_cases tag : raw.tag = "array_initializer"
    · have elements : Gives (lower source limit room) initializer = Initializes source limit room := by
        funext part result
        exact propext ih
      rw [if_pos (beq_iff_eq.mpr tag), if_pos tag, run_request, lower_succ, body,
        run_arrayElementsBody_eq_ok, elements]
    · rw [if_neg (by simpa using tag), if_neg tag, run_request]

/-! ## Declarators -/

variable {declaration : RawNode} {modifiers : Option Modifiers} {base : Expression}
  {vs : List VariableDeclaration}

variable (source limit room declaration modifiers base) in
/-- Whether a variable is that of one declarator of a declaration: it reaches from the start of the
declaration to the end of the declarator, has the modifiers and the type of the declaration, wrapped by
the brackets of the declarator alone, and the name and the value of the declarator. -/
structure Declares (d : RawNode) (v : VariableDeclaration) : Prop where
  span : v.span = declaration.span.through d.span
  modifiers : v.modifiers = modifiers
  type : Wrapped base (brackets (d.field? "dimensions")) v.type
  name : (d.field? "name").map (identifier source) = some v.name
  initializer : Option.Rel (Initializes source limit room) (d.field? "value") v.initializer

/-- What a declarator is lowered to is the variable that it declares. -/
theorem declares_of_gives {d : RawNode} {v : VariableDeclaration}
    (made : Gives (lower source limit room)
      (declarator source declaration.span modifiers (some base)) d v) :
    Declares source limit room declaration modifiers base d v := by
  obtain ⟨_, name, init, same, found, valued, rfl⟩ := run_declarator_eq_ok.mp made
  obtain rfl := Option.some.inj same
  have given : Gives (lower source limit room) initializer = Initializes source limit room :=
    funext fun _ => funext fun _ => propext gives_initializer_iff
  exact { span := rfl, modifiers := rfl, type := wrapped_foldl base _, name := by rw [found]; rfl,
          initializer := given ▸ valued }

/-- A declaration declares a variable for each of its declarators, in their order. -/
theorem exists_variables
    (modified : (modifiersOf source declaration).run (lower source limit room) = .ok modifiers)
    (typed : HasType (lower source limit room) (declaration.field? "type") base)
    (declared : ∀ d ∈ declaration.fields "declarator", (d.field? "name").isSome ∧
      ∀ value ∈ d.field? "value", ∃ e, Initializes source limit room value e) :
    ∃ vs, (variableDeclarations source declaration).run (lower source limit room) = .ok vs ∧
      List.Forall₂ (Declares source limit room declaration modifiers base)
        (declaration.fields "declarator") vs := by
  have valued : ∀ d ∈ declaration.fields "declarator", (d.field? "name").isSome ∧
      Lowers (lower source limit room) (optional initializer (d.field? "value")) := by
    intro d hd
    refine ⟨(declared d hd).1, ?_⟩
    cases held : d.field? "value" with
    | none => exact ⟨none, rfl⟩
    | some value =>
      obtain ⟨e, given⟩ := (declared d hd).2 value held
      exact ⟨some e, run_optional_eq_ok.mpr (.some (gives_initializer_iff.mpr given))⟩
  obtain ⟨vs, given, made⟩ := exists_declarators typed modified valued
  exact ⟨vs, given, made.imp fun _ _ => declares_of_gives⟩

/-! ## Places among members -/

/-- Whether a part of a type body is a semicolon alone. -/
def isSeparator (part : RawNode) : Bool := part.isKept && !part.isNamed && part.tag == ";"

/-- The flag is used up by the first semicolon, wherever the parts are cut. -/
theorem bodyEntriesIn_append (separated : Bool) (ps qs : List RawNode) :
    bodyEntriesIn separated (ps ++ qs) =
      bodyEntriesIn separated ps ++
        bodyEntriesIn (separated && ps.all fun part => !isSeparator part) qs := by
  induction ps generalizing separated with
  | nil => simp [bodyEntriesIn]
  | cons part rest ih =>
    rw [List.cons_append, bodyEntriesIn, bodyEntriesIn, List.all_cons]
    -- the parts of a body are skipped, or make entries, or are semicolons
    cases kept : part.isKept with
    | false =>
      have skipped : isSeparator part = false := by simp [isSeparator, kept]
      simp [ih, skipped]
    | true =>
      cases named : part.isNamed with
      | true =>
        have entry : isSeparator part = false := by simp [isSeparator, named]
        simp [ih, entry]
      | false =>
        by_cases tag : part.tag = ";"
        · have semicolon : isSeparator part = true := by simp [isSeparator, kept, named, tag]
          cases separated <;> simp [ih, semicolon, tag]
        · have token : isSeparator part = false := by simp [isSeparator, tag]
          simp [ih, token, tag]

variable (declaration) in
/-- Whether a declaration stands in the body of a type, between the entries before it and those after it:
among the parts of the body, or among the members of an enum after its constants. -/
inductive StandsIn : (body : RawNode) → (before after : List BodyEntry) → Prop where
  | directly {body ps qs} (parts : body.parts = ps ++ declaration :: qs) :
      StandsIn body (bodyEntriesIn false ps) (bodyEntriesIn false qs)
  | afterConstants {body members ps qs ps' qs'} (parts : body.parts = ps ++ members :: qs)
      (kept : members.isKept) (named : members.isNamed) (tag : members.tag = "enum_body_declarations")
      (inner : members.parts = ps' ++ declaration :: qs') :
      StandsIn body (bodyEntriesIn false ps ++ bodyEntriesIn true ps')
        (bodyEntriesIn (ps'.all fun part => !isSeparator part) qs' ++ bodyEntriesIn false qs)

/-- A declaration is one entry, with the same entries around it in either place. -/
theorem StandsIn.bodyEntries_eq {body : RawNode} {before after : List BodyEntry}
    (h : StandsIn declaration body before after) (kept : declaration.isKept)
    (named : declaration.isNamed) (tag : declaration.tag ≠ "enum_body_declarations") :
    bodyEntries body = before ++ .declaration declaration :: after := by
  have entry (separated : Bool) (qs : List RawNode) : bodyEntriesIn separated (declaration :: qs) =
      .declaration declaration :: bodyEntriesIn separated qs := by
    rw [bodyEntriesIn]
    simp [kept, named, tag]
  cases h with
  | directly parts =>
    rw [bodyEntries, parts, bodyEntriesIn_append, entry]
    rfl
  | @afterConstants members ps qs ps' qs' parts membersKept membersNamed membersTag inner =>
    obtain ⟨label, within⟩ := members
    have held : nestedEntries (.node label within) = bodyEntriesIn true ps' ++
        .declaration declaration :: bodyEntriesIn (ps'.all fun part => !isSeparator part) qs' := by
      rw [nestedEntries, show within = ps' ++ declaration :: qs' from inner, bodyEntriesIn_append,
        entry, Bool.true_and]
    rw [bodyEntries, parts, bodyEntriesIn_append, Bool.false_and, bodyEntriesIn]
    simp [membersKept, membersNamed, membersTag, held]

/-! ## Where a declaration stands -/

section

variable {below : Answers} (made : (variableDeclarations source declaration).run below = .ok vs)

include made

theorem run_bodyEntry_declaration
    (tag : declaration.tag = "field_declaration" ∨ declaration.tag = "constant_declaration") :
    (bodyEntry source (.declaration declaration)).run below = .ok (vs.map .variableDeclaration) := by
  rcases tag with tag | tag <;>
    simp only [bodyEntry, member, tag, run_bind_eq_ok, run_pure_eq_ok] <;> exact ⟨vs, made, rfl⟩

variable (tag : declaration.tag = "local_variable_declaration")

include tag

theorem run_statementsOf_declaration :
    (statementsOf source declaration).run below = .ok (vs.map .variableDeclaration) := by
  simp only [statementsOf, tag, run_bind_eq_ok, run_pure_eq_ok]
  exact ⟨vs, made, rfl⟩

theorem run_blockEntry_declaration (named : declaration.isNamed) :
    (blockEntry source declaration).run below = .ok (vs.map .variableDeclaration) := by
  rw [blockEntry, if_pos named]
  exact run_statementsOf_declaration made tag

theorem run_caseEntry_declaration (named : declaration.isNamed) :
    (caseEntry source declaration).run below = .ok ([], vs.map .variableDeclaration) := by
  rw [caseEntry, if_neg (by simp [tag])]
  simp only [run_bind_eq_ok, run_pure_eq_ok]
  exact ⟨_, run_blockEntry_declaration made tag named, rfl⟩

theorem run_forInitializer_declaration :
    (forInitializer source declaration).run below = .ok (vs.map .variableDeclaration) := by
  rw [forInitializer, if_pos (by simp [tag])]
  simp only [run_bind_eq_ok, run_pure_eq_ok]
  exact ⟨vs, made, rfl⟩

/-- A case has labels and statements, so what comes before and after the declaration is split in two. -/
theorem run_caseGroupBody_between {group : RawNode} {before after : List RawNode}
    {labels : List CaseLabel} {ss : List Statement} (named : declaration.isNamed)
    (children : group.children = before ++ declaration :: after) :
    (caseGroupBody source group).run below = .ok (labels, ss) ↔
      ∃ xs ys, (each (caseEntry source) before).run below = .ok xs ∧
        (each (caseEntry source) after).run below = .ok ys ∧
        labels = xs.flatMap Prod.fst ++ ys.flatMap Prod.fst ∧
        ss = xs.flatMap Prod.snd ++ vs.map .variableDeclaration ++ ys.flatMap Prod.snd := by
  have entry := run_caseEntry_declaration made tag named
  simp only [caseGroupBody, children, run_bind_eq_ok, run_each_eq_ok, run_pure_eq_ok, Prod.mk.injEq]
  constructor
  · rintro ⟨entries, given, rfl, rfl⟩
    obtain ⟨xs, zs, rfl, hxs, hzs⟩ := exists_append_of_forall₂ given
    obtain ⟨z, ys, hz, hys, rfl⟩ := List.forall₂_cons_left_iff.mp hzs
    cases entry.symm.trans hz
    exact ⟨xs, ys, hxs, hys, by simp, by simp⟩
  · rintro ⟨xs, ys, hxs, hys, rfl, rfl⟩
    exact ⟨_, List.rel_append hxs (.cons entry hys), by simp, by simp⟩

/-- Where one statement is wanted, a declaration is taken if it declares one variable. -/
theorem run_statementBody_declaration (named : declaration.isNamed) :
    (statementBody source declaration).run below =
      match vs with
      | [v] => .ok (.variableDeclaration v)
      | _ => .error declaration.unsupported := by
  have statements := run_statementsOf_declaration made tag
  rw [statementBody, if_pos named]
  simp only [namedStatementBody, tag, soleStatement, run_bind]
  rw [statements]
  rcases vs with _ | ⟨v, _ | ⟨w, rest⟩⟩ <;> rfl

end

end Lowering

open Lowering

/-- **A declaration of several variables.** Once its modifiers, its type, and the names and values of its
declarators are lowered, a declaration makes a variable for each declarator, in their order, and they
stand next to each other where the declaration stood, between what is made of the entries before it and
of those after it: among the members of a type, the statements of a block, those of a case, and the
initializers of a `for`. Where exactly one statement is wanted, a declaration of one variable is taken
and any other is refused. -/
theorem variables_of_declaration (source : String) (limit room : Nat) (declaration : RawNode)
    {modifiers : Option Modifiers} {base : Expression} (kept : declaration.isKept)
    (named : declaration.isNamed)
    (modified : (modifiersOf source declaration).run (lower source limit room) = .ok modifiers)
    (typed : HasType (lower source limit room) (declaration.field? "type") base)
    (declared : ∀ d ∈ declaration.fields "declarator", (d.field? "name").isSome ∧
      ∀ value ∈ d.field? "value", ∃ e, Initializes source limit room value e) :
    let below : Answers := lower source limit room
    ∃ vs, List.Forall₂ (Declares source limit room declaration modifiers base)
        (declaration.fields "declarator") vs ∧
      (declaration.tag = "field_declaration" ∨ declaration.tag = "constant_declaration" →
        ∀ body before after, StandsIn declaration body before after → ∀ ms,
          (members source body).run below = .ok ms ↔
            ∃ xs ys, (gather (bodyEntry source) before).run below = .ok xs ∧
              (gather (bodyEntry source) after).run below = .ok ys ∧
              ms = xs ++ vs.map .variableDeclaration ++ ys) ∧
      (declaration.tag = "local_variable_declaration" →
        (∀ (block : RawNode) (before after : List RawNode),
          block.children = before ++ declaration :: after → ∀ ss,
          (statementList source block).run below = .ok ss ↔
            ∃ xs ys, (gather (blockEntry source) before).run below = .ok xs ∧
              (gather (blockEntry source) after).run below = .ok ys ∧
              ss = xs ++ vs.map .variableDeclaration ++ ys) ∧
        (∀ (group : RawNode) (before after : List RawNode),
          group.children = before ++ declaration :: after → ∀ labels ss,
          (caseGroupBody source group).run below = .ok (labels, ss) ↔
            ∃ xs ys, (each (caseEntry source) before).run below = .ok xs ∧
              (each (caseEntry source) after).run below = .ok ys ∧
              labels = xs.flatMap Prod.fst ++ ys.flatMap Prod.fst ∧
              ss = xs.flatMap Prod.snd ++ vs.map .variableDeclaration ++ ys.flatMap Prod.snd) ∧
        (∀ (loop : RawNode) (before after : List RawNode),
          loop.fields "init" = before ++ declaration :: after → ∀ ss,
          (gather (forInitializer source) (loop.fields "init")).run below = .ok ss ↔
            ∃ xs ys, (gather (forInitializer source) before).run below = .ok xs ∧
              (gather (forInitializer source) after).run below = .ok ys ∧
              ss = xs ++ vs.map .variableDeclaration ++ ys) ∧
        ((declaration.fields "declarator").length = 1 → ∃ v, vs = [v] ∧
          lower source limit (room + 1) .statement declaration = .ok (.variableDeclaration v)) ∧
        ((declaration.fields "declarator").length ≠ 1 →
          lower source limit (room + 1) .statement declaration =
            .error declaration.unsupported)) := by
  intro below
  -- the variables do not depend on the place, so they are made once for all places
  obtain ⟨vs, made, declares⟩ := exists_variables modified typed declared
  refine ⟨vs, declares, ?member, fun tag => ⟨?block, ?group, ?loop, ?one, ?several⟩⟩
  case member =>
    intro tag body before after stands ms
    have apart : declaration.tag ≠ "enum_body_declarations" := by
      rcases tag with tag | tag <;> rw [tag] <;> decide
    rw [members, stands.bodyEntries_eq kept named apart]
    exact run_gather_between (run_bodyEntry_declaration made tag)
  case block =>
    intro block before after children ss
    rw [statementList, children]
    exact run_gather_between (run_blockEntry_declaration made tag named)
  case group =>
    intro group before after children labels ss
    exact run_caseGroupBody_between made tag named children
  case loop =>
    intro loop before after inits ss
    rw [inits]
    exact run_gather_between (run_forInitializer_declaration made tag)
  case one =>
    intro one
    -- there are as many variables as declarators
    obtain ⟨v, rfl⟩ := List.length_eq_one_iff.mp (declares.length_eq ▸ one)
    exact ⟨v, rfl, run_statementBody_declaration made tag named⟩
  case several =>
    intro several
    rw [declares.length_eq] at several
    rw [lower_succ, body, run_statementBody_declaration made tag named]
    cases vs with
    | nil => rfl
    | cons v rest =>
      cases rest with
      | nil => exact absurd rfl several
      | cons => rfl

open RawNode (onLine)

/-- The declarator `a[]` in `T a[], b = {c};`. -/
def bracketedDeclarator : RawNode :=
  onLine "variable_declarator" true (some "declarator") 2 5
    [onLine "identifier" true (some "name") 2 3 [],
     onLine "dimensions" true (some "dimensions") 3 5
      [onLine "[" false none 3 4 [], onLine "]" false none 4 5 []]]

/-- The braces in `T a[], b = {c};`. -/
def bareBraces : RawNode :=
  onLine "array_initializer" true (some "value") 11 14
    [onLine "\x7b" false none 11 12 [],
     onLine "identifier" true none 12 13 [],
     onLine "\x7d" false none 13 14 []]

/-- The declarator `b = {c}` in `T a[], b = {c};`. -/
def bracedDeclarator : RawNode :=
  onLine "variable_declarator" true (some "declarator") 7 14
    [onLine "identifier" true (some "name") 7 8 [], onLine "=" false none 9 10 [], bareBraces]

/-- The declaration `T a[], b = {c};`. -/
def unlikeVariables : RawNode :=
  onLine "local_variable_declaration" true none 0 15
    [onLine "type_identifier" true (some "type") 0 1 [], bracketedDeclarator,
     onLine "," false none 5 6 [], bracedDeclarator, onLine ";" false none 14 15 []]

theorem unlikeVariables_declared : ∃ (a b : VariableDeclaration) (c : Expression),
    (statementList "T a[], b = {c};" (onLine "program" true none 0 15 [unlikeVariables])).run
        (lower "T a[], b = {c};" 64 2) = .ok [.variableDeclaration a, .variableDeclaration b] ∧
      a.type.rank = 1 ∧ a.initializer = none ∧ b.type.rank = 0 ∧
      b.initializer = some (.newArray bareBraces.span none [] [c]) ∧
      lower "T a[], b = {c};" 64 3 .statement unlikeVariables = .error unlikeVariables.unsupported := by
  let c : Expression :=
    .identifier (identifier "T a[], b = {c};" (onLine "identifier" true none 12 13 []))
  have element : Initializes "T a[], b = {c};" 64 2 bareBraces (.newArray bareBraces.span none [] [c]) :=
    ⟨[c], .cons rfl .nil, rfl⟩
  obtain ⟨vs, declares, -, local_⟩ :=
    variables_of_declaration "T a[], b = {c};" 64 2 unlikeVariables rfl rfl rfl ⟨_, rfl, rfl⟩ (by
        intro d hd
        have two : d ∈ [bracketedDeclarator, bracedDeclarator] := hd
        rw [List.mem_pair] at two
        rcases two with rfl | rfl
        · exact ⟨rfl, nofun⟩
        · refine ⟨rfl, fun value held => ?_⟩
          cases held
          exact ⟨_, element⟩)
  have two : unlikeVariables.fields "declarator" = [bracketedDeclarator, bracedDeclarator] := rfl
  rw [two] at declares
  obtain ⟨a, _, first, others, rfl⟩ := List.forall₂_cons_left_iff.mp declares
  obtain ⟨b, _, second, none_, rfl⟩ := List.forall₂_cons_left_iff.mp others
  cases none_
  obtain ⟨block, -, -, -, several⟩ := local_ rfl
  have absent : Option.Rel (Initializes "T a[], b = {c};" 64 2) none a.initializer := first.initializer
  have braces : Option.Rel (Initializes "T a[], b = {c};" 64 2) (some bareBraces) b.initializer :=
    second.initializer
  refine ⟨a, b, c, (block _ [] [] rfl _).mpr ⟨[], [], rfl, rfl, rfl⟩, first.type.rank, ?_,
    second.type.rank, ?_, several (by decide)⟩
  · generalize a.initializer = value at absent ⊢
    cases absent
    rfl
  · generalize b.initializer = value at braces ⊢
    cases braces with
    | some given =>
      obtain ⟨es, given, rfl⟩ := given
      obtain ⟨e, _, lowered, none_, rfl⟩ := List.forall₂_cons_left_iff.mp given
      cases none_
      cases lowered
      rfl

end JavaSyntax
