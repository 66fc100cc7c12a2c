import JavaSyntax.Proofs.Lowering.Along.Entry

/-!
# Order of what is built — children come one after the other

The slots of a node have a fixed order, and its parts the order of the source. The two agree for all
forms of node but two: a compilation unit lists package, imports and types in this order, in whatever
order the source has them; and in a call of a constructor such as `<T>this(x)` the type arguments stand
before the keyword, while a call lists what is called first.

* `Lowering.inOrder_unitOf`: a unit of parts that stand in the order of its slots is in order;
* `inOrder_of_build`: the children of all nodes are in order, but for the two forms;
* `disordered_of_build`: those of the two need not be.
-/

namespace JavaSyntax

namespace Lowering

/-! ## Places in a unit -/

variable {source : String} {below : Answers} {root raw : RawNode} {parts : List UnitPart}

/-- The place of the slot of a unit that a part goes to. -/
def UnitPart.place : UnitPart → Nat
  | packageAnnotationUse _ => 0
  | packageName _ => 1
  | importDeclaration _ => 2
  | typeDeclaration _ => 3

theorem UnitPart.place_le (part : UnitPart) : part.place ≤ 3 := by
  cases part <;> simp [place]

/-- A part that goes to an earlier place starts no later than one that goes to a later place, if parts
stand in the order of their places. -/
theorem le_of_place_lt
    (sorted : parts.Pairwise fun a b => a.node.span.startByte ≤ b.node.span.startByte)
    (placed : parts.Pairwise fun a b => a.place ≤ b.place) {a b : UnitPart} (ha : a ∈ parts)
    (hb : b ∈ parts) : a.place < b.place → a.node.span.startByte ≤ b.node.span.startByte := by
  refine List.Pairwise.forall_of_forall_of_flip (l := parts)
    (R := fun a b => a.place < b.place → a.node.span.startByte ≤ b.node.span.startByte) ?_ ?_ ?_ ha hb
  · exact fun a _ less => absurd less (Nat.lt_irrefl _)
  · refine sorted.imp ?_
    exact fun order _ => order
  -- the part that stands first cannot be the one of the later place
  · exact placed.imp fun order less => absurd less (Nat.not_lt.mpr order)

/-- Whether the nodes of a slot are in order, and all come from parts that go to that place. -/
structure Fills (parts : List UnitPart) (place : Nat) (slot : List Node) : Prop where
  sorted : slot.Pairwise fun m n => m.span.startByte ≤ n.span.startByte
  origin : ∀ n ∈ slot, ∃ part ∈ parts, part.place = place ∧ part.node = n

theorem fills_filterMap {α : Type} {node : α → Node} {read : UnitPart → Option α} {place : Nat}
    (sorted : parts.Pairwise fun a b => a.node.span.startByte ≤ b.node.span.startByte)
    (known : ∀ part a, read part = some a → part.place = place ∧ part.node = node a) :
    Fills parts place ((parts.filterMap read).map node) := by
  constructor
  · rw [List.pairwise_map, List.pairwise_filterMap]
    refine sorted.imp fun {p q} order a ha b hb => ?_
    rwa [(known p a ha).2, (known q b hb).2] at order
  · refine List.forall_mem_map.mpr fun a ha => ?_
    obtain ⟨part, hp, found⟩ := List.mem_filterMap.mp ha
    exact ⟨part, hp, known part a found⟩

theorem Fills.sublist {place : Nat} {slot slot' : List Node} (h : Fills parts place slot)
    (sub : slot'.Sublist slot) : Fills parts place slot' :=
  ⟨h.sorted.sublist sub, fun n hn => h.origin n (sub.subset hn)⟩

/-- Nodes of a slot at an earlier place start no later than those of a slot at a later one. -/
theorem Fills.le_of_lt {i j : Nat} {slot slot' : List Node} (h : Fills parts i slot)
    (sorted : parts.Pairwise fun a b => a.node.span.startByte ≤ b.node.span.startByte)
    (placed : parts.Pairwise fun a b => a.place ≤ b.place) (less : i < j)
    (h' : Fills parts j slot') : ∀ m ∈ slot, ∀ n ∈ slot', m.span.startByte ≤ n.span.startByte := by
  intro m hm n hn
  obtain ⟨a, ha, rfl, rfl⟩ := h.origin m hm
  obtain ⟨b, hb, rfl, rfl⟩ := h'.origin n hn
  exact le_of_place_lt sorted placed ha hb less

/-- **A unit of parts in the order of their places is in order.** -/
theorem inOrder_unitOf {span : Span}
    (sorted : parts.Pairwise fun a b => a.node.span.startByte ≤ b.node.span.startByte)
    (placed : parts.Pairwise fun a b => a.place ≤ b.place) :
    (Node.compilationUnit (unitOf span parts)).InOrder := by
  -- each slot is filled from the parts of one place
  have annotations : Fills parts 0 ((unitOf span parts).packageAnnotations.map Node.annotationUse) :=
    fills_filterMap sorted fun _ _ found =>
      UnitPart.packageAnnotationUse?_eq_some.mp found ▸ ⟨rfl, rfl⟩
  have names : Fills parts 1 ((parts.filterMap UnitPart.packageName?).map Expression.node) :=
    fills_filterMap sorted fun _ _ found => UnitPart.packageName?_eq_some.mp found ▸ ⟨rfl, rfl⟩
  have name : Fills parts 1 (slotOf Expression.node (unitOf span parts).packageName) := by
    refine names.sublist ?_
    change (slotOf Expression.node (parts.filterMap UnitPart.packageName?).getLast?).Sublist _
    cases last : (parts.filterMap UnitPart.packageName?).getLast? with
    | none => exact List.nil_sublist _
    | some e => exact List.singleton_sublist.mpr (List.mem_map_of_mem (List.mem_of_getLast? last))
  have imports : Fills parts 2 ((unitOf span parts).imports.map Node.importDeclaration) :=
    fills_filterMap sorted fun _ _ found => UnitPart.import?_eq_some.mp found ▸ ⟨rfl, rfl⟩
  have types : Fills parts 3 ((unitOf span parts).types.map Node.typeDeclaration) :=
    fills_filterMap sorted fun _ _ found => UnitPart.type?_eq_some.mp found ▸ ⟨rfl, rfl⟩
  have filled : List.Forall₂ (Fills parts) [0, 1, 2, 3]
      (Node.compilationUnit (unitOf span parts)).slots :=
    .cons annotations (.cons name (.cons imports (.cons types .nil)))
  refine List.pairwise_flatten.mpr ⟨fun slot hslot => ?_, ?_⟩
  · obtain ⟨place, -, h⟩ := exists_of_forall₂ filled hslot
    exact h.sorted
  · exact pairwise_of_forall₂ (S := (· < ·)) (by decide) filled fun less h h' =>
      h.le_of_lt sorted placed less h'

/-- The parts of a package declaration stand in the order of their places: annotations first. -/
theorem placed_package {ps : List RawNode}
    (order : ps.Pairwise fun a b => isAnnotationUse b → isAnnotationUse a)
    (given : List.Forall₂ (PackagePartForm below) ps parts) :
    parts.Pairwise fun a b => a.place ≤ b.place := by
  refine pairwise_of_forall₂ order given fun {a a' b b'} first form form' => ?_
  cases form with
  | annotationUse isUse given => exact Nat.zero_le _
  | name notUse given =>
    cases form' with
    | annotationUse isUse given => exact absurd (first isUse) notUse
    | name notUse' given => exact Nat.le_refl _

theorem place_le_of_package {part : UnitPart} (form : PackagePartForm below raw part) :
    part.place ≤ 1 := by
  cases form with
  | annotationUse isUse given => exact Nat.zero_le _
  | name notUse given => exact Nat.le_refl _

/-- The parts of a unit stand in the order of their places, if the declarations that they come from
stand in the conventional order. -/
theorem placed_of_conventional {groups : List (List UnitPart)} (sequenced : root.Sequenced)
    (conventional : root.Conventional)
    (given : List.Forall₂ (UnitPartsForm source below) root.namedChildren groups) :
    groups.flatten.Pairwise fun a b => a.place ≤ b.place := by
  refine List.pairwise_flatten.mpr ⟨fun group hgroup => ?_, ?_⟩
  -- the parts of one declaration
  · obtain ⟨p, hp, form⟩ := exists_of_forall₂ given hgroup
    cases form with
    | package tag given =>
      exact placed_package ((sequenced p (root.namedChildren_subset_nodes hp)).package tag)
        (given.imp fun _ _ => packagePart_form)
    | importDeclaration tag given => exact List.pairwise_singleton _ _
    | type isType given => exact List.pairwise_singleton _ _
  -- the parts of one declaration and those of a later one
  · refine pairwise_of_forall₂ conventional given fun {a a' b b'} order form form' => ?_
    cases form' with
    | package tag given => exact absurd tag order.1
    | importDeclaration tag given =>
      refine fun x hx y hy => List.mem_singleton.mp hy ▸ ?_
      cases form with
      | package tag' given =>
        obtain ⟨p, hp, made⟩ := exists_of_forall₂ given hx
        exact Nat.le_succ_of_le (place_le_of_package (packagePart_form made))
      | importDeclaration tag' given => exact List.mem_singleton.mp hx ▸ Nat.le_refl _
      | type isType given =>
        rcases order.2 tag with tag' | tag'
        all_goals
          rw [isTypeDeclaration, tag'] at isType
          exact absurd isType (by decide)
    | type isType given =>
      exact fun x _ y hy => List.mem_singleton.mp hy ▸ x.place_le

end Lowering

/-! ## Builds -/

/-- A unit alone can be out of order by its declarations; what is below it is as for the other entries. -/
theorem Entry.inOrder_of_lowering {entry : Entry} {source : String} {root : RawNode}
    {below : Answers} (o : Lowering.Orderly root below) {tree : entry.Result}
    (made : (entry.lowering source root).run below = .ok tree) :
    ∀ n ∈ entry.nodes tree, ∀ m ∈ n.preorder,
      m.InOrder ∨ m.isBareCall ∨ m.shape = .compilationUnit ∧ ¬ root.Conventional := by
  cases entry with
  | compilationUnit =>
    obtain ⟨groups, given, rfl⟩ := Lowering.compilationUnit_form made
    have given := given.imp fun _ _ => Lowering.unitParts_form
    have along := o.unitParts given
    have sorted := along.sorted
    rw [List.pairwise_map] at sorted
    rw [nodes, List.forall_mem_singleton, Node.forall_mem_preorder]
    constructor
    -- the parts of the unit are sorted as they stand, and by their places if the unit is conventional
    · by_cases conventional : root.Conventional
      · exact .inl (Lowering.inOrder_unitOf sorted
          (Lowering.placed_of_conventional o.sequenced conventional given))
      · exact .inr (.inr ⟨rfl, conventional⟩)
    · refine Lowering.forall_children_unit fun part hp m hm => ?_
      exact (along.settled _ (List.mem_map_of_mem hp) m hm).imp_right .inl
  | expression =>
    obtain ⟨inner, found, given⟩ := Lowering.soleExpression_inner made
    exact fun n hn m hm =>
      ((o.expression inner found tree given).settled n hn m hm).imp_right .inl
  | statements =>
    exact fun n hn m hm =>
      ((o.statementList root root.mem_nodes_self tree made).settled n hn m hm).imp_right .inl

/-- **Children come in source order, but for two forms of node.** If siblings in a raw tree come one
after the other and its parts in an order of the grammar, then in whatever is built of it the children
of each node start one after the other, unless it is a call of a constructor by its bare keyword with
type arguments, or a compilation unit whose declarations are not in the conventional order. -/
theorem inOrder_of_build {entry : Entry} {config : BuildConfig} {parsed : ParseResult}
    {tree : entry.Result} (sequenced : parsed.root.Sequenced)
    (built : entry.build config parsed = .ok tree) :
    ∀ n ∈ entry.nodes tree, ∀ m ∈ n.preorder,
      m.InOrder ∨ m.isBareCall ∨ m.shape = .compilationUnit ∧ ¬ parsed.root.Conventional := by
  rw [Entry.build_of_intact (Entry.intact_of_build built)] at built
  exact Entry.inOrder_of_lowering (Lowering.orderly_lower sequenced) built

open RawNode (onLine)

/-- The raw tree of `class A { } import a.b;`. -/
def importLast : ParseResult where
  source := "class A \x7b \x7d import a.b;"
  root :=
    onLine "program" true none 0 23
      [onLine "class_declaration" true none 0 11
        [onLine "class" false none 0 5 [],
         onLine "identifier" true (some "name") 6 7 [],
         onLine "class_body" true (some "body") 8 11
          [onLine "\x7b" false none 8 9 [], onLine "\x7d" false none 10 11 []]],
       onLine "import_declaration" true none 12 23
        [onLine "import" false none 12 18 [],
         onLine "scoped_identifier" true none 19 22
          [onLine "identifier" true (some "scope") 19 20 [],
           onLine "." false none 20 21 [],
           onLine "identifier" true (some "name") 21 22 []],
         onLine ";" false none 22 23 []]]

/-- The raw tree of `class C { C() { <T>this(1); } }`. -/
def typedThis : ParseResult where
  source := "class C \x7b C() \x7b <T>this(1); \x7d \x7d"
  root :=
    onLine "program" true none 0 31
      [onLine "class_declaration" true none 0 31
        [onLine "class" false none 0 5 [],
         onLine "identifier" true (some "name") 6 7 [],
         onLine "class_body" true (some "body") 8 31
          [onLine "\x7b" false none 8 9 [],
           onLine "constructor_declaration" true none 10 29
            [onLine "identifier" true (some "name") 10 11 [],
             onLine "formal_parameters" true (some "parameters") 11 13
              [onLine "(" false none 11 12 [], onLine ")" false none 12 13 []],
             onLine "constructor_body" true (some "body") 14 29
              [onLine "\x7b" false none 14 15 [],
               onLine "explicit_constructor_invocation" true none 16 27
                [onLine "type_arguments" true (some "type_arguments") 16 19
                  [onLine "<" false none 16 17 [],
                   onLine "type_identifier" true none 17 18 [],
                   onLine ">" false none 18 19 []],
                 onLine "this" true (some "constructor") 19 23 [],
                 onLine "argument_list" true (some "arguments") 23 26
                  [onLine "(" false none 23 24 [],
                   onLine "decimal_integer_literal" true none 24 25 [],
                   onLine ")" false none 25 26 []],
                 onLine ";" false none 26 27 []],
               onLine "\x7d" false none 28 29 []]],
           onLine "\x7d" false none 30 31 []]]]

theorem importLast_sequenced : importLast.root.Sequenced := by decide

theorem typedThis_sequenced : typedThis.root.Sequenced := by decide

theorem typedThis_inOrder : typedThis.root.Sequenced ∧ ∃ unit,
    Entry.compilationUnit.build {} typedThis = .ok unit ∧
      ∀ m ∈ (Node.compilationUnit unit).preorder, m.InOrder ∨ m.isBareCall := by
  have intact : checkDamage {} typedThis = .ok () := rfl
  have built : ∃ unit, Entry.compilationUnit.build {} typedThis = .ok unit :=
    ⟨_, (Entry.build_of_intact intact).trans rfl⟩
  obtain ⟨unit, built⟩ := built
  have conventional : typedThis.root.Conventional := by decide
  refine ⟨typedThis_sequenced, unit, built, fun m hm => ?_⟩
  refine (inOrder_of_build typedThis_sequenced built _ List.mem_cons_self m hm).imp_right ?_
  rintro (bare | ⟨-, unconventional⟩)
  · exact bare
  · exact absurd conventional unconventional

/-- Neither of the two forms is always in order: a unit with an import after a type, and a call of a
constructor of the same class with type arguments. -/
theorem disordered_of_build :
    (importLast.root.Sequenced ∧ ∃ unit,
      Entry.compilationUnit.build {} importLast = .ok unit ∧
        ¬ (Node.compilationUnit unit).InOrder) ∧
    (typedThis.root.Sequenced ∧ typedThis.root.Conventional ∧ ∃ unit,
      Entry.compilationUnit.build {} typedThis = .ok unit ∧
        ¬ ∀ m ∈ (Node.compilationUnit unit).preorder, m.InOrder) := by
  constructor
  case left =>
    have intact : checkDamage {} importLast = .ok () := rfl
    exact ⟨importLast_sequenced, _, (Entry.build_of_intact intact).trans rfl, by decide⟩
  case right =>
    have intact : checkDamage {} typedThis = .ok () := rfl
    refine ⟨typedThis_sequenced, by decide, _, (Entry.build_of_intact intact).trans rfl, ?_⟩
    intro unit
    -- down to the class, its constructor, the body, the statement in it, and the call
    have type := (Node.forall_mem_preorder.mp unit).2 _ (List.Mem.head _)
    have constructor := (Node.forall_mem_preorder.mp type).2 _ (.tail _ (.head _))
    have body := (Node.forall_mem_preorder.mp constructor).2 _ (.tail _ (.head _))
    have statement := (Node.forall_mem_preorder.mp body).2 _ (.head _)
    have call := (Node.forall_mem_preorder.mp statement).2 _ (.head _)
    exact absurd (Node.forall_mem_preorder.mp call).1 (by decide)

end JavaSyntax
