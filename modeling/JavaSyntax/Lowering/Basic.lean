import JavaSyntax.Raw.Basic
import JavaSyntax.Tree.Checked
import JavaSyntax.Tree.Node

/-!
# Lowering — computations that make typed trees of raw ones

A lowering either is done, or refuses its input, or asks for a construct that lies one level deeper
in the source and goes on with the answer. Nothing else can happen in it: how deep constructs may
nest, and what lowers a nested one, is decided where a lowering is run (`JavaSyntax.Lowering.Run`).
So what each construct consists of is said without recursion, and depth is counted in one place.

* `Lowering` is a lawful monad, in which the first refusal ends all;
* `Lowering.optional` and `Lowering.each` lower a part that may be absent and a list of parts.
-/

namespace JavaSyntax

/-! ## Nested constructs -/

/-- The constructs whose nesting is counted. -/
inductive Construct where
  | expression
  | type
  | statement
  /-- The statements between braces. -/
  | statements
  /-- A class, enum, interface or annotation type. -/
  | typeDeclaration
  /-- A type body without a header. -/
  | anonymousClass
  | annotationUse
  /-- One group of labels and statements of a switch. -/
  | caseGroup
  /-- Array elements between braces that are the value of a declarator, or stand inside those. -/
  | arrayElements
  /-- Array elements between braces that stand inside those of an array creation. -/
  | innerElements
  /-- Annotation values between braces. -/
  | annotationValues
  deriving DecidableEq, Repr

/-- What a construct is lowered to. -/
abbrev Construct.Result : Construct → Type
  | expression => Expression
  | type => Expression
  | statement => Statement
  | statements => List Statement
  | typeDeclaration => TypeDeclaration
  | anonymousClass => TypeDeclaration
  | annotationUse => AnnotationUse
  | caseGroup => List CaseLabel × List Statement
  | arrayElements => Expression
  | innerElements => Expression
  | annotationValues => Expression

/-! ## Computations -/

inductive Lowering (α : Type) : Type where
  | done (value : α)
  | refuse (error : SyntaxError)
  | nested (construct : Construct) (raw : RawNode) (next : construct.Result → Lowering α)

namespace Lowering

variable {α β γ : Type}

protected def bind (x : Lowering α) (f : α → Lowering β) : Lowering β :=
  match x with
  | done value => f value
  | refuse error => refuse error
  | nested construct raw next => nested construct raw fun result => (next result).bind f

instance : Monad Lowering where
  pure := done
  bind := Lowering.bind

@[simp] theorem pure_eq (a : α) : (pure a : Lowering α) = done a := rfl

@[simp] theorem nested_bind (construct : Construct) (raw : RawNode)
    (next : construct.Result → Lowering α) (f : α → Lowering β) :
    (nested construct raw next >>= f) = nested construct raw fun result => next result >>= f :=
  rfl

theorem bind_done (x : Lowering α) : (x >>= done) = x := by
  induction x with
  | done => rfl
  | refuse => rfl
  | nested construct raw next ih => rw [nested_bind]; exact congrArg _ (funext ih)

theorem bind_assoc (x : Lowering α) (f : α → Lowering β) (g : β → Lowering γ) :
    (x >>= f >>= g) = x >>= fun a => f a >>= g := by
  induction x with
  | done => rfl
  | refuse => rfl
  | nested construct raw next ih =>
    simp only [nested_bind]; exact congrArg _ (funext ih)

instance : LawfulMonad Lowering :=
  LawfulMonad.mk' Lowering (fun x => bind_done x) (fun _ _ => rfl) (fun x f g => bind_assoc x f g)

/-! ## Parts -/

/-- What a checked construction gives, or its refusal. -/
def checked (made : Except TreeError α) : Lowering α :=
  match made with
  | .ok value => done value
  | .error error => refuse (.tree error)

/-- Refuses a construct that typed trees do not have. -/
def unsupported (raw : RawNode) : Lowering α := refuse raw.unsupported

/-- Lowers a part that may be absent. -/
def optional (lower : β → Lowering α) : Option β → Lowering (Option α)
  | none => return none
  | some part => return some (← lower part)

/-- Lowers parts in their order. -/
def each (lower : β → Lowering α) : List β → Lowering (List α)
  | [] => return []
  | part :: rest => return (← lower part) :: (← each lower rest)

/-- Lowers the named children of a list that may be absent. -/
def listed (lower : RawNode → Lowering α) (list : Option RawNode) : Lowering (List α) :=
  match list with
  | none => return []
  | some found => each lower found.namedChildren

/-- Lowers parts in their order, each to any number of results. -/
def gather (lower : β → Lowering (List α)) (parts : List β) : Lowering (List α) :=
  return (← each lower parts).flatten

/-! ## Requests -/

def expression (raw : RawNode) : Lowering Expression := nested .expression raw done

def typeExpression (raw : RawNode) : Lowering Expression := nested .type raw done

def statement (raw : RawNode) : Lowering Statement := nested .statement raw done

def statements (raw : RawNode) : Lowering (List Statement) := nested .statements raw done

def typeDeclaration (raw : RawNode) : Lowering TypeDeclaration := nested .typeDeclaration raw done

def anonymousClass (raw : RawNode) : Lowering TypeDeclaration := nested .anonymousClass raw done

def annotationUse (raw : RawNode) : Lowering AnnotationUse := nested .annotationUse raw done

def caseGroup (raw : RawNode) : Lowering (List CaseLabel × List Statement) :=
  nested .caseGroup raw done

/-- The block that a raw node's braces hold. -/
def block (raw : RawNode) : Lowering Block :=
  return ⟨.plain, raw.span, ← statements raw⟩

end Lowering

end JavaSyntax
