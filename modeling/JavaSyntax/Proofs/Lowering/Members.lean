import JavaSyntax.Proofs.Lowering.Variables

/-!
# Members — what the children of a type body make

The entries of a body are found with a flag, which says whether the next semicolon separates the
constants of an enum from its other members. Here the flag is gone: each child of a body makes members
of its own, and they are joined in the order of the source.

* `bodyEntries_eq`, `nestedEntries_eq`: the entries of a body, child by child; after the constants of an
  enum the first semicolon is left out;
* `Makes`: the members that one child of a body makes;
* `makes_iff`: these are what its entries are lowered to;
* `sections`: the lists of members after constants, at every depth;
* `members_in_order`: the members of a body, and how many of them are empty;
* `members_of_typeDeclaration`: a type with a body has the members of the body.

The statement about empty members needs the sections because a semicolon means two things. Among the
children of a body each semicolon is an empty member. In a section the first one separates, so it counts
for the section and not for a member. `Tallied` states the count with both sides as sums, so it can be
added up over children without subtraction.
-/

namespace JavaSyntax

namespace Lowering

variable {source : String} {below : Answers}

/-! ## Entries -/

/-- What stands in one child of a type body. -/
def childEntries (child : RawNode) : List BodyEntry :=
  if child.isNamed then
    if child.tag = "enum_body_declarations" then nestedEntries child else [.declaration child]
  else if child.tag = ";" then [.empty child.span]
  else []

/-- A semicolon that is a token and counts as a child. -/
theorem isSeparator_iff {part : RawNode} :
    isSeparator part = true ↔ part.isKept = true ∧ part.isNamed = false ∧ part.tag = ";" := by
  simp [isSeparator, and_assoc]

/-- The flag drops the first semicolon, if it is set, and has no other effect. -/
theorem bodyEntriesIn_eq (separated : Bool) (parts : List RawNode) :
    bodyEntriesIn separated parts =
      (if separated then (parts.filter RawNode.isKept).eraseP isSeparator
        else parts.filter RawNode.isKept).flatMap childEntries := by
  induction parts generalizing separated with
  | nil => cases separated <;> rfl
  | cons part rest ih =>
    rw [bodyEntriesIn]
    cases kept : part.isKept with
    | false => simp [ih, kept]
    | true =>
      -- a named part never is the semicolon that the flag waits for
      cases named : part.isNamed with
      | true =>
        have entry : isSeparator part = false := by simp [isSeparator, named]
        cases separated <;> simp [ih, kept, named, entry, childEntries]
      | false =>
        by_cases tag : part.tag = ";"
        · have semicolon : isSeparator part = true := isSeparator_iff.mpr ⟨kept, named, tag⟩
          cases separated <;> simp [ih, kept, named, tag, semicolon, childEntries]
        · have token : isSeparator part = false := by simp [isSeparator, tag]
          cases separated <;> simp [ih, kept, named, tag, token, childEntries]

/-- A body has no semicolon to drop. -/
theorem bodyEntries_eq (body : RawNode) : bodyEntries body = body.children.flatMap childEntries :=
  bodyEntriesIn_eq false body.parts

/-- Of what stands after the constants of an enum the first semicolon is left out. -/
theorem nestedEntries_eq (raw : RawNode) :
    nestedEntries raw = (raw.children.eraseP isSeparator).flatMap childEntries := by
  obtain ⟨label, parts⟩ := raw
  exact bodyEntriesIn_eq true parts

/-! ## What a child makes -/

variable (source below) in
/-- What one child of a type body makes: tokens make nothing, unless they are semicolons, which are
empty members; a declaration of variables makes one for each declarator, any other declaration makes
one member; and what stands after the constants of an enum makes all that its own children make, in
their order, the first semicolon among them left out. -/
inductive Makes : RawNode → List Member → Prop where
  | token {child} (unnamed : child.isNamed = false) (tag : child.tag ≠ ";") : Makes child []
  | semicolon {child} (unnamed : child.isNamed = false) (tag : child.tag = ";") :
      Makes child [.empty child.span]
  | fields {child modifiers type vs} (named : child.isNamed = true)
      (tag : child.tag = "field_declaration" ∨ child.tag = "constant_declaration")
      (given : Gives below (variableDeclarations source) child vs)
      (each : List.Forall₂ (Gives below (declarator source child.span modifiers type))
        (child.fields "declarator") vs) :
      Makes child (vs.map .variableDeclaration)
  | declaration {child m} (named : child.isNamed = true)
      (tag : child.tag ≠ "enum_body_declarations" ∧ child.tag ≠ "field_declaration" ∧
        child.tag ≠ "constant_declaration")
      (given : Gives below (member source) child [m]) (solid : m.kind ≠ .emptyStatement) :
      Makes child [m]
  | afterConstants {child groups} (named : child.isNamed = true)
      (tag : child.tag = "enum_body_declarations")
      (each : List.Forall₂ Makes (child.children.eraseP isSeparator) groups) :
      Makes child groups.flatten

/-- Any declaration but one of variables makes one member, which is not empty. -/
theorem eq_singleton_of_memberForm {raw : RawNode} {ms : List Member}
    (form : MemberForm source below raw ms) (tag : raw.tag ≠ "field_declaration")
    (tag' : raw.tag ≠ "constant_declaration") : ∃ m, ms = [m] ∧ m.kind ≠ .emptyStatement := by
  cases form with
  | declaration field =>
    rcases field with field | field
    · exact absurd field tag
    · exact absurd field tag'
  | method => exact ⟨_, rfl, nofun⟩
  | enumConstant => exact ⟨_, rfl, nofun⟩
  | initializer => exact ⟨_, rfl, nofun⟩
  | staticInitializer => exact ⟨_, rfl, nofun⟩
  | type => exact ⟨_, rfl, nofun⟩

section

variable {α β γ : Type} {lower : β → Lowering (List α)} {results : List α}

/-- No parts give nothing. -/
theorem run_gather_nil : (gather lower []).run below = .ok results ↔ results = [] := by
  simp only [run_gather_eq_ok, List.forall₂_nil_left_iff, exists_eq_left, List.flatten_nil]
  exact eq_comm

/-- One part gives what it is lowered to. -/
theorem run_gather_singleton {b : β} :
    (gather lower [b]).run below = .ok results ↔ (lower b).run below = .ok results := by
  simp [run_gather_eq_ok, List.forall₂_cons_left_iff, Gives]

/-- What the entries of several nodes are lowered to is joined from what those of each are. -/
theorem run_gather_flatMap {f : γ → List β} {xs : List γ} :
    (gather lower (xs.flatMap f)).run below = .ok results ↔
      ∃ groups, List.Forall₂ (fun x group => (gather lower (f x)).run below = .ok group) xs groups ∧
        results = groups.flatten := by
  induction xs generalizing results with
  | nil =>
    rw [List.flatMap_nil, run_gather_nil]
    simp only [List.forall₂_nil_left_iff, exists_eq_left, List.flatten_nil]
  | cons x rest ih =>
    rw [List.flatMap_cons, run_gather_append]
    simp only [ih, List.forall₂_cons_left_iff]
    constructor
    · rintro ⟨group, _, first, ⟨groups, given, rfl⟩, rfl⟩
      exact ⟨_, ⟨group, groups, first, given, rfl⟩, rfl⟩
    · rintro ⟨_, ⟨group, groups, first, given, rfl⟩, rfl⟩
      exact ⟨group, _, first, ⟨groups, given, rfl⟩, rfl⟩

end

/-- Two relations that agree on the members of a list. -/
theorem forall₂_congr {α β : Type} {R S : α → β → Prop} {as : List α} {bs : List β}
    (h : ∀ a ∈ as, ∀ b, R a b ↔ S a b) : List.Forall₂ R as bs ↔ List.Forall₂ S as bs := by
  induction as generalizing bs with
  | nil => rw [List.forall₂_nil_left_iff, List.forall₂_nil_left_iff]
  | cons a rest ih =>
    rw [List.forall_mem_cons] at h
    simp only [List.forall₂_cons_left_iff, h.1, ih h.2]

/-- What a declaration is lowered to, it makes. -/
theorem makes_of_member {child : RawNode} {ms : List Member} (named : child.isNamed = true)
    (tag : child.tag ≠ "enum_body_declarations")
    (given : (member source child).run below = .ok ms) : Makes source below child ms := by
  by_cases field : child.tag = "field_declaration" ∨ child.tag = "constant_declaration"
  · have variables_ : (member source child).run below =
        (return (← variableDeclarations source child).map .variableDeclaration : Lowering _).run
          below := by
      rcases field with field | field <;> simp only [member, field]
    rw [variables_, run_bind_eq_ok] at given
    obtain ⟨vs, given, made⟩ := given
    obtain ⟨modifiers, type, -, -, each⟩ := run_variableDeclarations_eq_ok.mp given
    rw [← run_pure_eq_ok.mp made]
    exact .fields named field given each
  · rw [not_or] at field
    obtain ⟨m, rfl, solid⟩ := eq_singleton_of_memberForm (member_form given) field.1 field.2
    exact .declaration named ⟨tag, field.1, field.2⟩ given solid

/-- What a child makes is what its entries are lowered to. -/
theorem makes_iff {child : RawNode} {ms : List Member} :
    Makes source below child ms ↔
      (gather (bodyEntry source) (childEntries child)).run below = .ok ms := by
  induction child using RawNode.inductionOnParts generalizing ms with
  | node child ih =>
    -- what holds of the entries of a section holds of its children, which are parts of it
    have within (groups : List (List Member)) :
        List.Forall₂ (Makes source below) (child.children.eraseP isSeparator) groups ↔
          List.Forall₂ (fun c group =>
            (gather (bodyEntry source) (childEntries c)).run below = .ok group)
            (child.children.eraseP isSeparator) groups :=
      forall₂_congr fun c hc _ =>
        ih c (RawNode.children_subset_parts child (List.mem_of_mem_eraseP hc))
    constructor
    · intro made
      cases made with
      | token unnamed tag => rw [childEntries, if_neg (by simp [unnamed]), if_neg tag, run_gather_nil]
      | semicolon unnamed tag =>
        rw [childEntries, if_neg (by simp [unnamed]), if_pos tag, run_gather_singleton]
        rfl
      | fields named tag given each =>
        have apart : child.tag ≠ "enum_body_declarations" := by
          rcases tag with tag | tag <;> rw [tag] <;> decide
        rw [childEntries, if_pos named, if_neg apart, run_gather_singleton]
        exact run_bodyEntry_declaration given tag
      | declaration named tag given solid =>
        rw [childEntries, if_pos named, if_neg tag.1, run_gather_singleton]
        exact given
      | afterConstants named tag each =>
        rw [childEntries, if_pos named, if_pos tag, nestedEntries_eq, run_gather_flatMap]
        exact ⟨_, (within _).mp each, rfl⟩
    · intro made
      unfold childEntries at made
      split at made
      case isTrue named =>
        split at made
        case isTrue tag =>
          rw [nestedEntries_eq, run_gather_flatMap] at made
          obtain ⟨groups, each, rfl⟩ := made
          exact .afterConstants named tag ((within groups).mpr each)
        case isFalse tag =>
          rw [run_gather_singleton] at made
          exact makes_of_member named tag made
      case isFalse unnamed =>
        rw [Bool.not_eq_true] at unnamed
        split at made
        case isTrue tag =>
          rw [run_gather_singleton] at made
          obtain rfl := run_pure_eq_ok.mp made
          exact .semicolon unnamed tag
        case isFalse tag =>
          rw [run_gather_nil] at made
          exact made ▸ .token unnamed tag

/-- The members of a body are what its children make, in their order. -/
theorem run_members_eq_ok {body : RawNode} {ms : List Member} :
    (members source body).run below = .ok ms ↔
      ∃ groups, List.Forall₂ (Makes source below) body.children groups ∧ ms = groups.flatten := by
  rw [members, bodyEntries_eq, run_gather_flatMap]
  refine exists_congr fun groups => and_congr_left' ?_
  exact (forall₂_congr fun c _ _ => makes_iff).symm

/-! ## Empty members -/

/-- Whether a child of a body holds the members after the constants of an enum. -/
def isSection (child : RawNode) : Bool :=
  child.isKept && child.isNamed && child.tag == "enum_body_declarations"

mutual

/-- All that holds members after constants: among the children of a body, and again among the children
of what is found. -/
def sections : RawNode → List RawNode
  | .node _ parts => sectionsIn parts

/-- The sections among some parts. -/
def sectionsIn : List RawNode → List RawNode
  | [] => []
  | part :: rest => (if isSection part then part :: sections part else []) ++ sectionsIn rest

end

/-- A child with all that it contributes to the sections of its body. -/
def sectionsAt (child : RawNode) : List RawNode :=
  if isSection child then child :: sections child else []

/-- The sections of a body are those of its children, one child after the other. -/
theorem sections_eq (body : RawNode) : sections body = body.children.flatMap sectionsAt := by
  obtain ⟨label, parts⟩ := body
  change sectionsIn parts = (parts.filter RawNode.isKept).flatMap sectionsAt
  induction parts with
  | nil => rfl
  | cons part rest ih =>
    rw [sectionsIn, ih]
    cases kept : part.isKept with
    | false => simp [isSection, kept]
    | true => simp [sectionsAt, kept]

/-- Whether a section has a semicolon, and so one that separates. -/
def separates (child : RawNode) : Bool := child.children.any isSeparator

def isEmptyMember (m : Member) : Bool := m.kind == .emptyStatement

/-- Of the elements that are counted all but the first are left, if there are any. -/
theorem countP_eraseP {α : Type} (p : α → Bool) (as : List α) :
    (as.eraseP p).countP p + (if as.any p then 1 else 0) = as.countP p := by
  induction as with
  | nil => rfl
  | cons a rest ih =>
    cases found : p a with
    | true => simp [found]
    | false => simpa [found] using ih

/-- A child that is no section has none in it that count. -/
theorem sectionsAt_eq_nil {child : RawNode} (h : isSection child = false) : sectionsAt child = [] := by
  rw [sectionsAt, if_neg (by simp [h])]

/-- A semicolon is no section. -/
theorem isSection_eq_false_of_isSeparator {child : RawNode} (h : isSeparator child = true) :
    isSection child = false := by
  have unnamed := (isSeparator_iff.mp h).2.1
  simp [isSection, unnamed]

/-- Dropping the separator drops no section. -/
theorem flatMap_sectionsAt_eraseP (cs : List RawNode) :
    (cs.eraseP isSeparator).flatMap sectionsAt = cs.flatMap sectionsAt := by
  rcases List.exists_or_eq_self_of_eraseP isSeparator cs with
    none_ | ⟨c, before, after, -, separator, rfl, erased⟩
  · rw [none_]
  · have nothing := sectionsAt_eq_nil (isSection_eq_false_of_isSeparator separator)
    rw [erased, List.flatMap_append, List.flatMap_append, List.flatMap_cons, nothing,
      List.nil_append]

/-- Whether the empty members that some children make are as many as the semicolons among them and in
their sections, one fewer for each section that has any. -/
def Tallied (cs : List RawNode) (ms : List Member) : Prop :=
  ms.countP isEmptyMember + (cs.flatMap sectionsAt).countP separates =
    cs.countP isSeparator + ((cs.flatMap sectionsAt).flatMap RawNode.children).countP isSeparator

/-- Counts add up. -/
theorem Tallied.append {cs cs' : List RawNode} {ms ms' : List Member} (h : Tallied cs ms)
    (h' : Tallied cs' ms') : Tallied (cs ++ cs') (ms ++ ms') := by
  unfold Tallied at *
  simp only [List.flatMap_append, List.countP_append]
  omega

/-- What holds of each child holds of all children together. -/
theorem Tallied.flatten {cs : List RawNode} {groups : List (List Member)}
    (each : ∀ c ∈ cs, ∀ ms, Makes source below c ms → Tallied [c] ms)
    (made : List.Forall₂ (Makes source below) cs groups) : Tallied cs groups.flatten := by
  induction made with
  | nil => rfl
  | cons first _ ih =>
    rw [List.forall_mem_cons] at each
    exact (each.1 _ first).append (ih each.2)

/-- Children that make no empty member and are neither semicolons nor sections change nothing. -/
theorem tallied_of_solid {child : RawNode} {ms : List Member}
    (solid : ∀ m ∈ ms, isEmptyMember m = false) (token : isSeparator child = false)
    (entry : isSection child = false) : Tallied [child] ms := by
  have none_ : ms.countP isEmptyMember = 0 := by
    rw [List.countP_eq_zero]
    intro m hm
    rw [solid m hm]
    exact Bool.false_ne_true
  simp [Tallied, none_, token, sectionsAt_eq_nil entry]

/-- Every child that is no extra is tallied, by induction on the raw tree: a section is tallied if its
own children are. -/
theorem tallied_of_makes {child : RawNode} {ms : List Member} (kept : child.isKept = true)
    (made : Makes source below child ms) : Tallied [child] ms := by
  induction child using RawNode.inductionOnParts generalizing ms with
  | node child ih =>
    cases made with
    | token unnamed tag =>
      exact tallied_of_solid nofun (by simp [isSeparator, tag]) (by simp [isSection, unnamed])
    | semicolon unnamed tag =>
      have separator : isSeparator child = true := isSeparator_iff.mpr ⟨kept, unnamed, tag⟩
      have nothing := sectionsAt_eq_nil (isSection_eq_false_of_isSeparator separator)
      simp [Tallied, separator, nothing, isEmptyMember, Member.kind]
    | fields named tag given each =>
      refine tallied_of_solid ?_ (by simp [isSeparator, named]) ?_
      · intro m hm
        obtain ⟨v, -, rfl⟩ := List.mem_map.mp hm
        rfl
      · rcases tag with tag | tag <;> simp [isSection, tag]
    | declaration named tag given solid =>
      refine tallied_of_solid ?_ (by simp [isSeparator, named]) (by simp [isSection, tag.1])
      intro m hm
      rw [List.mem_singleton.mp hm, isEmptyMember, beq_eq_false_iff_ne]
      exact solid
    | @afterConstants _ groups named tag each =>
      have section_ : isSection child = true := by simp [isSection, kept, named, tag]
      have token : isSeparator child = false := by simp [isSeparator, named]
      -- the children of the section but its first semicolon are tallied, and that semicolon makes
      -- up for the section itself
      have inside : Tallied (child.children.eraseP isSeparator) groups.flatten := by
        refine Tallied.flatten (fun c hc ms made => ?_) each
        have hc := List.mem_of_mem_eraseP hc
        exact ih c (RawNode.children_subset_parts child hc) (List.mem_filter.mp hc).2 made
      have counted := countP_eraseP isSeparator child.children
      rw [Tallied, flatMap_sectionsAt_eraseP, ← sections_eq] at inside
      have listed : [child].flatMap sectionsAt = child :: sections child := by
        rw [List.flatMap_singleton, sectionsAt, if_pos section_]
      have alone : [child].countP isSeparator = 0 := by simp [token]
      rw [Tallied, listed, List.flatMap_cons, List.countP_append, List.countP_cons, separates, alone]
      omega

/-! ## Types -/

/-- A type that has a body has the members of that body. -/
theorem members_of_typeDeclaration {limit room : Nat} {raw body : RawNode} {d : TypeDeclaration}
    (h : lower source limit (room + 1) .typeDeclaration raw = .ok d)
    (found : raw.field? "body" = some body) :
    (members source body).run (lower source limit room) = .ok d.members := by
  rw [lower_succ, Lowering.body] at h
  obtain ⟨_, _, _, _, _, _, held, -, -, -, -, -, -, given, -, rfl⟩ := typeDeclarationBody_form h
  rw [found] at given
  cases given with
  | some given => exact given

end Lowering

open Lowering

/-- **A body keeps its members in their order.** The members of a body are what its children make, one
after the other: nothing for a token, an empty member with the extent of the token for a semicolon, a
variable for each declarator of a field, one member for any other declaration, and for what stands
after the constants of an enum what its own children make, but for the first semicolon among them. So
the empty members of a body are as many as the semicolons among its children and those of its sections,
one fewer for each section that has any. -/
theorem members_in_order (source : String) (below : Answers) (body : RawNode) (ms : List Member) :
    ((members source body).run below = .ok ms ↔
      ∃ groups, List.Forall₂ (Makes source below) body.children groups ∧ ms = groups.flatten) ∧
    ((members source body).run below = .ok ms →
      ms.countP isEmptyMember + (sections body).countP separates =
        ((body :: sections body).flatMap RawNode.children).countP isSeparator) := by
  refine ⟨run_members_eq_ok, fun made => ?_⟩
  obtain ⟨groups, each, rfl⟩ := run_members_eq_ok.mp made
  have tallied : Tallied body.children groups.flatten :=
    Tallied.flatten (fun c hc _ => tallied_of_makes (List.mem_filter.mp hc).2) each
  rw [Tallied, ← sections_eq] at tallied
  rw [List.flatMap_cons, List.countP_append, tallied]

open RawNode (onLine)

/-- What stands after the constant in `enum E { A; ; int a, b; ; }`. -/
def afterConstant : RawNode :=
  onLine "enum_body_declarations" true none 10 25
    [onLine ";" false none 10 11 [],
     onLine ";" false none 12 13 [],
     onLine "field_declaration" true none 14 23
      [onLine "integral_type" true (some "type") 14 17 [onLine "int" false none 14 17 []],
       onLine "variable_declarator" true (some "declarator") 18 19
        [onLine "identifier" true (some "name") 18 19 []],
       onLine "," false none 19 20 [],
       onLine "variable_declarator" true (some "declarator") 21 22
        [onLine "identifier" true (some "name") 21 22 []],
       onLine ";" false none 22 23 []],
     onLine ";" false none 24 25 []]

/-- The braces in `enum E { A; ; int a, b; ; }`. -/
def enumBody : RawNode :=
  onLine "enum_body" true (some "body") 7 27
    [onLine "\x7b" false none 7 8 [],
     onLine "enum_constant" true none 9 10 [onLine "identifier" true (some "name") 9 10 []],
     afterConstant,
     onLine "\x7d" false none 26 27 []]

/-- The declaration `enum E { A; ; int a, b; ; }`. -/
def enumOfOne : RawNode :=
  onLine "enum_declaration" true none 0 27
    [onLine "enum" false none 0 4 [], onLine "identifier" true (some "name") 5 6 [], enumBody]

theorem enumOfOne_members : ∃ d groups,
    lower "enum E { A; ; int a, b; ; }" 64 3 .typeDeclaration enumOfOne = .ok d ∧
    d.members.map Member.kind = [.enumConstant, .emptyStatement, .variableDeclaration,
      .variableDeclaration, .emptyStatement] ∧
    List.Forall₂ (Makes "enum E { A; ; int a, b; ; }" (lower "enum E { A; ; int a, b; ; }" 64 2))
      enumBody.children groups ∧ d.members = groups.flatten ∧
    sections enumBody = [afterConstant] ∧ separates afterConstant = true ∧
    d.members.countP isEmptyMember + 1 = 3 := by
  have lowered : ∃ d,
      lower "enum E { A; ; int a, b; ; }" 64 3 .typeDeclaration enumOfOne = .ok d ∧
      d.members.map Member.kind = [.enumConstant, .emptyStatement, .variableDeclaration,
        .variableDeclaration, .emptyStatement] := ⟨_, rfl, rfl⟩
  obtain ⟨d, lowered, kinds⟩ := lowered
  have made : (members "enum E { A; ; int a, b; ; }" enumBody).run
      (lower "enum E { A; ; int a, b; ; }" 64 2) = .ok d.members :=
    members_of_typeDeclaration lowered rfl
  have inOrder := members_in_order "enum E { A; ; int a, b; ; }"
    (lower "enum E { A; ; int a, b; ; }" 64 2) enumBody d.members
  obtain ⟨groups, each, joined⟩ := inOrder.1.mp made
  exact ⟨d, groups, lowered, kinds, each, joined, rfl, rfl, inOrder.2 made⟩

end JavaSyntax
