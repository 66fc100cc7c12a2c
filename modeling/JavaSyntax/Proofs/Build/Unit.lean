import JavaSyntax.Proofs.Build.Entry
import JavaSyntax.Proofs.Lowering.Forms.Entry

/-!
# Units — what becomes of the declarations at the top of a source

A unit collects what stands at the top of a source in four slots, whatever the order and the number of
the declarations. Three of them are lists, and hold what was found in the order of the source. The
fourth holds a single name, and each name of a package takes the place of the one before it.

* `RawNode.packageAnnotations`, `RawNode.packageNames`: what the package declarations of a source
  hold;
* `Lowering.collected`: the results in one slot, declaration by declaration;
* `unit_complete`: what the slots of a built unit hold;
* `packageTwice_forgets`: a name that is lost.
-/

namespace JavaSyntax

/-! ## The top of a source -/

namespace RawNode

/-- The annotations of all packages that a source declares. -/
def packageAnnotations (root : RawNode) : List RawNode :=
  (root.childrenOfTag "package_declaration").flatMap fun package =>
    package.namedChildren.filter Lowering.isAnnotationUse

/-- The names of all packages that a source declares. -/
def packageNames (root : RawNode) : List RawNode :=
  (root.childrenOfTag "package_declaration").flatMap fun package =>
    package.namedChildren.filter fun part => !Lowering.isAnnotationUse part

/-- The types that a source declares. -/
def topTypes (root : RawNode) : List RawNode :=
  root.namedChildren.filter Lowering.isTypeDeclaration

end RawNode

namespace Lowering

variable {α : Type} {source : String} {below : Answers} {raw : RawNode} {parts : List UnitPart}

/-- A declaration of a type is no other declaration. -/
theorem tag_of_isTypeDeclaration (h : isTypeDeclaration raw) :
    raw.tag ≠ "package_declaration" ∧ raw.tag ≠ "import_declaration" := by
  constructor
  all_goals
    intro tag
    rw [isTypeDeclaration, tag] at h
    exact absurd h (by decide)

/-! ## Package declarations -/

/-- What is read of a package declaration goes with the parts that it is read from. -/
theorem forall₂_packageParts {read : UnitPart → Option α} {keep : RawNode → Bool}
    {lower : RawNode → Lowering α}
    (each : ∀ p part, PackagePartForm below p part →
      Option.Rel (Gives below lower) (Option.guard keep p) (read part))
    (given : List.Forall₂ (Gives below packagePart) raw.namedChildren parts) :
    List.Forall₂ (Gives below lower) (raw.namedChildren.filter keep) (parts.filterMap read) := by
  rw [← List.filterMap_eq_filter]
  exact List.rel_filterMap (fun p part gives => each p part (packagePart_form gives)) given

theorem forall₂_packageAnnotations
    (given : List.Forall₂ (Gives below packagePart) raw.namedChildren parts) :
    List.Forall₂ (Gives below annotationUse) (raw.namedChildren.filter isAnnotationUse)
      (parts.filterMap UnitPart.packageAnnotationUse?) := by
  refine forall₂_packageParts (fun p part form => ?_) given
  cases form with
  | annotationUse isUse gives => exact Option.guard_pos isUse ▸ .some gives
  | name notUse gives => exact Option.guard_eq_none_iff.mpr (Bool.not_eq_true _ ▸ notUse) ▸ .none

theorem forall₂_packageNames
    (given : List.Forall₂ (Gives below packagePart) raw.namedChildren parts) :
    List.Forall₂ (Gives below expression)
      (raw.namedChildren.filter fun part => !isAnnotationUse part)
      (parts.filterMap UnitPart.packageName?) := by
  refine forall₂_packageParts (fun p part form => ?_) given
  cases form with
  | annotationUse isUse gives => simp [Option.guard, isUse, UnitPart.packageName?]
  | name notUse gives => simpa [Option.guard, notUse, UnitPart.packageName?] using gives

/-- A package declaration imports nothing and declares no type. -/
theorem packageParts_eq_nil
    (given : List.Forall₂ (Gives below packagePart) raw.namedChildren parts) :
    parts.filterMap UnitPart.import? = [] ∧ parts.filterMap UnitPart.type? = [] := by
  constructor
  all_goals
    refine List.filterMap_eq_nil_iff.mpr fun part hp => ?_
    obtain ⟨p, -, gives⟩ := exists_of_forall₂ given hp
    cases packagePart_form gives <;> rfl

/-! ## Slots -/

/-- The results in one slot come from the declarations that fill it, in their order: `held` says what
those hold, and all others leave the slot alone. -/
theorem collected {read : UnitPart → Option α} {keep : RawNode → Bool}
    {held : RawNode → List RawNode} {lower : RawNode → Lowering α} {children : List RawNode}
    {groups : List (List UnitPart)}
    (fill : ∀ c parts, UnitPartsForm source below c parts → keep c →
      List.Forall₂ (Gives below lower) (held c) (parts.filterMap read))
    (leave : ∀ c parts, UnitPartsForm source below c parts → ¬ keep c → parts.filterMap read = [])
    (given : List.Forall₂ (Gives below (unitParts source)) children groups) :
    List.Forall₂ (Gives below lower) ((children.filter keep).flatMap held)
      (groups.flatten.filterMap read) := by
  induction given with
  | nil => exact .nil
  | @cons c parts children groups gives _ ih =>
    rw [List.flatten_cons, List.filterMap_append, List.filter_cons]
    split
    case isTrue kept =>
      rw [List.flatMap_cons]
      exact List.rel_append (fill c parts (unitParts_form gives) kept) ih
    case isFalse other =>
      rw [leave c parts (unitParts_form gives) other, List.nil_append]
      exact ih

variable {root : RawNode} {groups : List (List UnitPart)}
  (given : List.Forall₂ (Gives below (unitParts source)) root.namedChildren groups)

include given

theorem collected_imports :
    List.Forall₂ (Gives below (importDeclaration source)) (root.childrenOfTag "import_declaration")
      (groups.flatten.filterMap UnitPart.import?) := by
  rw [← List.flatMap_singleton' (root.childrenOfTag _)]
  refine collected (fun c parts form kept => ?_) (fun c parts form other => ?_) given
  · have tag : c.tag = "import_declaration" := eq_of_beq kept
    cases form with
    | package package => exact absurd (tag.symm.trans package) (by decide)
    | importDeclaration tag gives => exact .cons gives .nil
    | type isType => exact absurd tag (tag_of_isTypeDeclaration isType).2
  · cases form with
    | package tag given => exact (packageParts_eq_nil given).1
    | importDeclaration tag => exact absurd (beq_of_eq tag) other
    | type => rfl

theorem collected_types :
    List.Forall₂ (Gives below typeDeclaration) root.topTypes
      (groups.flatten.filterMap UnitPart.type?) := by
  rw [← List.flatMap_singleton' root.topTypes]
  refine collected (fun c parts form kept => ?_) (fun c parts form other => ?_) given
  · cases form with
    | package tag => exact absurd tag (tag_of_isTypeDeclaration kept).1
    | importDeclaration tag => exact absurd tag (tag_of_isTypeDeclaration kept).2
    | type isType gives => exact .cons gives .nil
  · cases form with
    | package tag given => exact (packageParts_eq_nil given).2
    | importDeclaration => rfl
    | type isType => exact absurd isType other

/-- A slot that only package declarations fill. -/
theorem collected_packages {read : UnitPart → Option α} {held : RawNode → List RawNode}
    {lower : RawNode → Lowering α} (imports : ∀ i, read (.importDeclaration i) = none)
    (types : ∀ d, read (.typeDeclaration d) = none)
    (fill : ∀ (package : RawNode) parts,
      List.Forall₂ (Gives below packagePart) package.namedChildren parts →
        List.Forall₂ (Gives below lower) (held package) (parts.filterMap read)) :
    List.Forall₂ (Gives below lower) ((root.childrenOfTag "package_declaration").flatMap held)
      (groups.flatten.filterMap read) := by
  refine collected (fun c parts form kept => ?_) (fun c parts form other => ?_) given
  · have tag : c.tag = "package_declaration" := eq_of_beq kept
    cases form with
    | package _ given => exact fill c parts given
    | importDeclaration import_ => exact absurd (tag.symm.trans import_) (by decide)
    | type isType => exact absurd tag (tag_of_isTypeDeclaration isType).1
  · cases form with
    | package tag => exact absurd (beq_of_eq tag) other
    | importDeclaration => rw [List.filterMap_cons_none (imports _), List.filterMap_nil]
    | type => rw [List.filterMap_cons_none (types _), List.filterMap_nil]

end Lowering

/-! ## Builds -/

open Lowering

/-- **A unit holds every declaration at the top of its source, except names of packages that others
replace.** If a unit is built, nothing but packages, imports and types is declared at the top of the
source. The imports, the types and the annotations of packages are those of the unit, one by one and in
order. Of the names of packages the unit has the last, so it has them all if there is not more than
one. -/
theorem unit_complete {config : BuildConfig} {parsed : ParseResult} {unit : CompilationUnit}
    (built : Entry.compilationUnit.build config parsed = .ok unit) :
    let below := lower parsed.source config.maxDepth config.maxDepth
    (∀ c ∈ parsed.root.namedChildren,
      c.tag = "package_declaration" ∨ c.tag = "import_declaration" ∨ isTypeDeclaration c) ∧
    List.Forall₂ (Gives below (importDeclaration parsed.source))
      (parsed.root.childrenOfTag "import_declaration") unit.imports ∧
    List.Forall₂ (Gives below typeDeclaration) parsed.root.topTypes unit.types ∧
    List.Forall₂ (Gives below annotationUse) parsed.root.packageAnnotations
      unit.packageAnnotations ∧
    ∃ names, List.Forall₂ (Gives below expression) parsed.root.packageNames names ∧
      unit.packageName = names.getLast? ∧
      (parsed.root.packageNames.length ≤ 1 → ∀ name ∈ names, unit.packageName = some name) := by
  intro below
  rw [Entry.build_of_intact (Entry.intact_of_build built)] at built
  obtain ⟨groups, given, rfl⟩ := compilationUnit_form built
  refine ⟨?_, ?_, ?_, ?_, ?_⟩
  case refine_1 =>
    intro c hc
    obtain ⟨parts, -, gives⟩ := exists_of_forall₂ given.flip hc
    cases unitParts_form gives with
    | package tag => exact .inl tag
    | importDeclaration tag => exact .inr (.inl tag)
    | type isType => exact .inr (.inr isType)
  case refine_2 => exact collected_imports given
  case refine_3 => exact collected_types given
  case refine_4 =>
    exact collected_packages given (fun _ => rfl) (fun _ => rfl)
      fun _ _ given => forall₂_packageAnnotations given
  case refine_5 =>
    have names := collected_packages given (fun _ => rfl) (fun _ => rfl)
      fun _ _ given => forall₂_packageNames given
    refine ⟨_, names, rfl, fun one name hname => ?_⟩
    -- a list of one name has no other than its last
    replace one := names.length_eq ▸ one
    obtain ⟨only, h⟩ := List.length_eq_one_iff.mp
      (Nat.le_antisymm one (List.length_pos_of_mem hname))
    show List.getLast? _ = _
    rw [h] at hname ⊢
    rw [List.mem_singleton.mp hname, List.getLast?_singleton]

/-! ## Samples -/

open RawNode (onLine)

/-- The raw tree of `@A package a; import b; class C { }`. -/
def annotatedPackage : ParseResult where
  source := "@A package a; import b; class C \x7b \x7d"
  root :=
    onLine "program" true none 0 35
      [onLine "package_declaration" true none 0 13
        [onLine "marker_annotation" true none 0 2
          [onLine "@" false none 0 1 [], onLine "identifier" true (some "name") 1 2 []],
         onLine "package" false none 3 10 [],
         onLine "identifier" true none 11 12 [],
         onLine ";" false none 12 13 []],
       onLine "import_declaration" true none 14 23
        [onLine "import" false none 14 20 [],
         onLine "identifier" true none 21 22 [],
         onLine ";" false none 22 23 []],
       onLine "class_declaration" true none 24 35
        [onLine "class" false none 24 29 [],
         onLine "identifier" true (some "name") 30 31 [],
         onLine "class_body" true (some "body") 32 35
          [onLine "\x7b" false none 32 33 [], onLine "\x7d" false none 34 35 []]]]

/-- The raw tree of `package a; package b;`. -/
def packageTwice : ParseResult where
  source := "package a; package b;"
  root :=
    onLine "program" true none 0 21
      [onLine "package_declaration" true none 0 10
        [onLine "package" false none 0 7 [],
         onLine "identifier" true none 8 9 [],
         onLine ";" false none 9 10 []],
       onLine "package_declaration" true none 11 21
        [onLine "package" false none 11 18 [],
         onLine "identifier" true none 19 20 [],
         onLine ";" false none 20 21 []]]

theorem annotatedPackage_complete : ∃ unit,
    Entry.compilationUnit.build ⟨8, true⟩ annotatedPackage = .ok unit ∧
      unit.imports.length = 1 ∧ unit.types.length = 1 ∧ unit.packageAnnotations.length = 1 ∧
      ∃ name, lower annotatedPackage.source 8 8 .expression
        (onLine "identifier" true none 11 12 []) = .ok name ∧ unit.packageName = some name := by
  have built : ∃ unit, Entry.compilationUnit.build ⟨8, true⟩ annotatedPackage = .ok unit :=
    ⟨_, (Entry.build_of_intact rfl).trans rfl⟩
  obtain ⟨unit, built⟩ := built
  obtain ⟨-, imports, types, annotations, names, named, -, kept⟩ := unit_complete built
  refine ⟨unit, built, imports.length_eq.symm, types.length_eq.symm, annotations.length_eq.symm, ?_⟩
  obtain ⟨name, others, gives, -, rfl⟩ := List.forall₂_cons_left_iff.mp named
  exact ⟨name, gives_request gives, kept (by decide) name List.mem_cons_self⟩

/-- **A second package takes the place of the first.** `package a; package b;` is built, and the name
of the first package is not the name of the unit. -/
theorem packageTwice_forgets : ∃ unit p name,
    Entry.compilationUnit.build ⟨8, true⟩ packageTwice = .ok unit ∧
      p ∈ packageTwice.root.packageNames ∧
      lower packageTwice.source 8 8 .expression p = .ok name ∧ unit.packageName ≠ some name := by
  have built : Entry.compilationUnit.build ⟨8, true⟩ packageTwice =
      .ok ⟨⟨0, 21, ⟨0, 0⟩, ⟨0, 21⟩⟩, [],
        some (.identifier ⟨⟨"b", ⟨19, 20, ⟨0, 19⟩, ⟨0, 20⟩⟩⟩⟩), [], []⟩ :=
    (Entry.build_of_intact rfl).trans rfl
  refine ⟨_, onLine "identifier" true none 8 9 [], _, built, List.mem_cons_self, rfl,
    fun same => ?_⟩
  exact absurd (Expression.identifier.inj (Option.some.inj same)) (by decide)

end JavaSyntax
