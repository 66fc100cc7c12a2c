import JavaSyntax.Proofs.Lowering.Along.Type
import JavaSyntax.Proofs.Lowering.Forms.Expression

/-!
# Expressions along the source

* `Orderly.callee`: the name of a call stands where the object of the call does, or the name itself;
* `Orderly.expressionForm`: an expression of each form stands along its node.

For most forms the proof is one line: the row of the form, with one lemma for each of its slots. Three
forms put a selection together: the name of a call, a field of an outer `super`, and a class literal.
There the order of two raw nodes that are not slots of one node is needed, and it is read from the row by
the places of both (`le_of_places`). Two things never come in order: the children of a bare call, and the
parts of a unit. The first is met in statements only.
-/

namespace JavaSyntax

namespace Lowering

namespace Orderly

variable {root raw : RawNode} {source : String} {below : Answers} (o : Orderly root below)

include o

/-! ## Names of calls -/

/-- What is called starts with the object of the call, if the call has one. -/
theorem callee (here : raw ∈ root.nodes) (tag : raw.tag = "method_invocation") {e : Expression}
    (form : CalleeForm source below raw e) :
    Along ((raw.field? "object").or (raw.field? "name")).toList [e.node] := by
  have order := (o.sequenced raw here).row tag List.mem_cons_self
  have field {name : String} {p : RawNode} (found : raw.field? name = some p) : p ∈ root.nodes :=
    RawNode.inner_of_field? here found
  cases form with
  | plain absent named =>
    rw [absent, Option.none_or]
    exact o.nameField here source named
  | @qualified object name given named =>
    obtain ⟨held, found, given⟩ := exists_of_rel_some given
    rw [found, Option.some_or]
    refine o.select source (field named) (o.expression _ (field found) _ given) ?_
    refine List.forall_mem_singleton.mpr (order.le_of_places (i := 0) (j := 2) (by decide) ?_ ?_)
    · exact RawNode.mem_toList found
    · exact RawNode.mem_toList named
  -- two selections, one around the other: the keyword from the object, and the name from that
  | @outerSuper held object keyword name found given listed between named =>
    rw [found, Option.some_or]
    -- the row names the keyword by where it stands, as the lowering does
    have inner : keyword ∈ raw.innerSupers := by
      refine List.mem_filter.mpr ⟨listed, decide_eq_true fun p hp => ?_⟩
      rw [found] at hp
      cases hp
      exact between
    have first := RawNode.mem_toList found
    have last := RawNode.mem_toList named
    have held := RawNode.mem_nodes_trans here
      (raw.parts_subset_nodes (raw.childrenOfTag_subset_parts "super" listed))
    have scope := o.select source held (o.expression _ (field found) _ given)
      (List.forall_mem_singleton.mpr (order.le_of_places (i := 0) (j := 1) (by decide) first inner))
    refine o.select source (field named) scope ?_
    exact List.forall_mem_singleton.mpr (order.le_of_places (i := 0) (j := 2) (by decide) first last)

/-! ## Sizes of arrays, parameters and bodies of lambdas -/

/-- A size lies inside its brackets. -/
theorem arraySize : Keeps root (Gives below arraySize) fun e => [e.node] := by
  intro raw here e made
  obtain ⟨size, last, given⟩ := arraySize_form made
  have inner := raw.namedChildren_subset_nodes (List.mem_filter.mp (List.mem_of_getLast? last)).1
  exact o.inside here (List.forall_mem_singleton.mpr inner)
    (o.expression size (RawNode.mem_nodes_trans here inner) e given)

/-- Parameters are names, or declarations of variables, in the order in which they are written. -/
theorem lambdaParameters {list : Option RawNode} {parameters : List LambdaParameter}
    (found : ∀ l, list = some l → l ∈ root.nodes)
    (form : LambdaParametersForm source below list parameters) :
    Along list.toList (parameters.map LambdaParameter.node) := by
  cases form with
  | absent => exact .nil
  | single name => exact o.identifier (found name rfl) source
  | inferred l =>
    -- names are not asked for, they are copied, but that keeps to the source as well
    have names : Keeps root (fun p i => i = Lowering.identifier source p)
        fun i => [Identifier.node i] :=
      fun p hp i same => same ▸ o.identifier hp source
    have all := o.listed names found RawNode.namedChildren_sublist_parts
      (List.forall₂_map_right_iff.mpr (List.forall₂_same.mpr fun _ _ => rfl))
    rw [List.map_map] at all ⊢
    exact all
  | declared given =>
    rw [List.map_map]
    exact o.listed o.parameter found RawNode.namedChildren_sublist_parts given

/-- The body of a lambda, in either form. -/
theorem lambdaBody : Keeps root (LambdaBodyForm below) fun b => [b.node] := by
  rintro raw here b (given | given)
  · exact o.block raw here _ given
  · exact o.expression raw here _ given

/-! ## All forms -/

/-- **An expression of each form stands along its node.** The row of the form is found by its tag. -/
theorem expressionForm (here : raw ∈ root.nodes) {e : Expression}
    (form : ExpressionForm source below raw e) : Along [raw] [e.node] := by
  have row {tag : String} (h : raw.tag = tag) {row : List (List RawNode)}
      (listed : row ∈ raw.rowsOf tag) := (o.sequenced raw here).row h listed
  have held {p : RawNode} (hp : p ∈ raw.namedChildren) : p ∈ root.nodes :=
    RawNode.inner_of_namedChildren here hp
  have field {name : String} {e : Expression}
      (given : Option.Rel (Gives below Lowering.expression) (raw.field? name) (some e)) :
      Along (raw.field? name).toList [e.node] := o.expression.field here given
  cases form with
  | literal => exact o.leaf here rfl rfl
  | name => exact o.identifier here source
  | type form => exact o.typeForm here form
  | fieldAccess tag given named =>
    -- the row also has the place of an outer `super`, which this form lacks
    have order := (row tag List.mem_cons_self).pick [0, 2] (by decide)
    exact o.whole here rfl
      (.flatten order (.cons (field given) (.cons (o.nameField here source named) .nil))) rfl
  | @outerSuperAccess object first middle last name tag given parts keyword named =>
    have order := row tag List.mem_cons_self
    -- the keyword is in the row as the second of three named children
    have second : raw.middle? = some middle := by rw [RawNode.middle?, parts]
    have inner := RawNode.mem_namedChildren_of_middle? second
    have scope := o.select source (held inner) (field given) fun p hp =>
      order.le_of_places (i := 0) (j := 1) (by decide) hp (RawNode.mem_toList second)
    exact o.whole here rfl (.flatten (order.pick [0, 2] (by decide))
      (.cons scope (.cons (o.nameField here source named) .nil))) rfl
  | parenthesized tag given =>
    have inner := o.expression.part (fun _ found => held (List.mem_of_head? found)) given
    exact o.whole here rfl inner rfl
  | call tag called typed given =>
    -- a call has two rows, and this one is for its slots
    have order := row tag (List.mem_cons_of_mem _ List.mem_cons_self)
    exact o.whole here rfl (.flatten order (.cons (o.callee here tag called)
      (.cons (o.itemsField here o.type typed)
        (.cons (o.itemsField here o.expression given) .nil)))) rfl
  | creation tag outer typed made given extended =>
    -- what comes before `new` is the first child, and only if it is named
    have first (p : RawNode) (found : raw.children.head?.filter RawNode.isNamed = some p) :
        p ∈ raw.namedChildren := by
      obtain ⟨found, isNamed⟩ := Option.filter_eq_some_iff.mp found
      exact List.mem_filter.mpr ⟨List.mem_of_head? found, isNamed⟩
    have enclosing := o.expression.part (fun p found => held (first p found)) outer
    exact o.whole here rfl (.flatten (row tag List.mem_cons_self) (.cons enclosing
      (.cons (o.itemsField here o.type typed) (.cons (o.type.field here made)
        (.cons (o.itemsField here o.expression given)
          (.cons (o.anonymousClass.child here extended) .nil)))))) rfl
  | @arrayCreation base sizes elements tag made sized filled =>
    have type := o.bracketedField here (creationBrackets raw sizes) made
    -- sizes stand in some of the brackets, the row has all of them
    have lengths := o.each here o.arraySize (List.filter_sublist.trans List.filter_sublist) sized
    exact o.whole here rfl (.flatten (row tag List.mem_cons_self) (.cons type
      (.cons (lengths.mono List.filter_sublist.subset)
        (.cons (o.itemsField here o.arrayElement filled) .nil)))) rfl
  | arrayAccess tag given at_ =>
    exact o.whole here rfl (.flatten (row tag List.mem_cons_self)
      (.cons (field given) (.cons (field at_) .nil))) rfl
  | cast tag typed given =>
    have type := o.type.part (fun _ found => RawNode.mem_nodes_trans here
      (raw.fields_subset_nodes "type" (List.mem_of_head? found))) typed
    exact o.whole here rfl (.flatten (row tag List.mem_cons_self)
      (.cons type (.cons (field given) .nil))) rfl
  | instanceOf tag found given typed =>
    exact o.whole here rfl (.flatten (row tag List.mem_cons_self)
      (.cons (field given) (.cons (o.type.field here typed) .nil))) rfl
  | conditional tag tested met unmet =>
    exact o.whole here rfl (.flatten (row tag List.mem_cons_self)
      (.cons (field tested) (.cons (field met) (.cons (field unmet) .nil)))) rfl
  | unary tag found known given => exact o.whole here rfl (field given) rfl
  | binary tag found known first second =>
    exact o.whole here rfl (.flatten (row tag List.mem_cons_self)
      (.cons (field first) (.cons (field second) .nil))) rfl
  | assignment tag found known assigned given =>
    exact o.whole here rfl (.flatten (row tag List.mem_cons_self)
      (.cons (field assigned) (.cons (field given) .nil))) rfl
  | update tag found known given =>
    have operand := o.expression.part (fun _ found => held (List.mem_of_head? found)) given
    exact o.whole here rfl operand rfl
  | lambda tag declared given =>
    have parameters := o.lambdaParameters (fun _ found =>
      RawNode.inner_of_field? here found) declared
    exact o.whole here rfl (.flatten (row tag List.mem_cons_self)
      (.cons parameters (.cons (o.lambdaBody.field here given) .nil))) rfl
  | @methodReference target method tag given named =>
    have base := o.expression.part (fun _ found => held (List.mem_of_head? found)) given
    have inner : method ∈ root.nodes := by
      -- the method is the keyword `new` or a name
      rcases Option.or_eq_some_iff.mp named with found | ⟨-, found⟩
      · exact RawNode.inner_of_findToken? here found
      · exact held (List.mem_of_getElem? found)
    exact o.whole here rfl (.flatten (row tag List.mem_cons_self)
      (.cons base (.cons (o.name source named inner) .nil))) rfl
  | @classLiteral type target keyword tag first found given =>
    have order := row tag List.mem_cons_self
    have inner := raw.namedChildren_subset_nodes (List.mem_of_head? first)
    have keyed := RawNode.inner_of_findToken? here found
    refine o.inside here (List.forall_mem_singleton.mpr inner)
      (o.select source keyed (o.type type (RawNode.mem_nodes_trans here inner) _ given) ?_)
    exact List.forall_mem_singleton.mpr (order.le_of_places (i := 0) (j := 1) (by decide)
      (RawNode.mem_toList first) (RawNode.mem_toList found))

end Orderly

end Lowering

end JavaSyntax
