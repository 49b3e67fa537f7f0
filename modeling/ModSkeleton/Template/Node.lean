import ModSkeleton.Template.Expr
import ModSkeleton.Template.Piece

namespace ModSkeleton.Template

/-!
# Nodes of a template

A parsed template is a sequence of nodes: text, outputs, and choices between two
sequences. `Node.parse` builds them from the pieces of a source with a stack of
the choices that are open.

A filter that does not exist is refused when it stands outside of every choice;
inside one it is an error only when it is applied.
-/

/-- A part of a parsed template. -/
inductive Node where
  | text (content : Text)
  | output (expr : Expr)
  | choice (test : Expr) (yes no : List Node)
  deriving Repr

/-- Why a source is no template. -/
inductive ParseError where
  | malformed
  | unknownFilter (name : Text)
  deriving Repr, DecidableEq

/--
A choice that is still open: what came before it, and its first branch. A chained
choice is the other branch of the choice around it and closes together with it.
-/
structure OpenChoice where
  before : List Node
  test : Expr
  yes : Option (List Node)
  chained : Bool
  deriving Repr

namespace OpenChoice

/-- The choice with its current branch complete. -/
def finish
    (frame : OpenChoice)
    (branch : List Node) :
    Node :=
  match frame.yes with
  | none => .choice frame.test branch []
  | some yes => .choice frame.test yes branch

end OpenChoice

/-- Close the innermost choice and those it is chained to. -/
def closeInnermost? : List OpenChoice → List Node → Option (List OpenChoice × List Node)
  | [], _ => none
  | frame :: frames, branch =>
      let nodes := frame.before ++ [frame.finish branch]
      if frame.chained then closeInnermost? frames nodes else some (frames, nodes)

namespace Node

/-- Build nodes from pieces, behind those of the branch that is being built. -/
def build : List OpenChoice → List Node → List Piece → Option (List Node)
  | [], nodes, [] => some nodes
  | _ :: _, _, [] => none
  | frames, nodes, .text content :: rest => build frames (nodes ++ [.text content]) rest
  | frames, nodes, .output content :: rest =>
      match (Token.ofContent? content).bind Expr.parse? with
      | some expr => build frames (nodes ++ [.output expr]) rest
      | none => none
  | frames, nodes, .block content :: rest =>
      match (Token.ofContent? content).bind Directive.parse?, frames with
      | some (.branch test), frames => build (⟨nodes, test, none, false⟩ :: frames) [] rest
      | some (.alternative test), ⟨before, first, none, chained⟩ :: frames =>
          build (⟨[], test, none, true⟩ :: ⟨before, first, some nodes, chained⟩ :: frames) [] rest
      | some .otherwise, ⟨before, test, none, chained⟩ :: frames =>
          build (⟨before, test, some nodes, chained⟩ :: frames) [] rest
      | some .close, frames =>
          match closeInnermost? frames nodes with
          | some (frames, nodes) => build frames nodes rest
          | none => none
      | _, _ => none

end Node

namespace Expr

mutual

/-- The first filter of an expression that does not exist. -/
def unknownFilter? : Expr → Option Text
  | .constant _ => none
  | .name _ => none
  | .concat operands => unknownFilterIn? operands
  | .filtered filter operand =>
      match unknownFilter? operand, filter with
      | some word, _ => some word
      | none, .unknown word => some word
      | none, _ => none
  | .negation operand => unknownFilter? operand
  | .conjunction operands => unknownFilterIn? operands
  | .disjunction operands => unknownFilterIn? operands
  | .tuple items => unknownFilterIn? items

/-- The first filter of some expressions that does not exist. -/
def unknownFilterIn? : List Expr → Option Text
  | [] => none
  | expr :: exprs =>
      match unknownFilter? expr with
      | some word => some word
      | none => unknownFilterIn? exprs

end

end Expr

namespace Node

/-- The first filter outside of every choice that does not exist. -/
def unknownFilter? : List Node → Option Text
  | [] => none
  | .output expr :: nodes =>
      match expr.unknownFilter? with
      | some name => some name
      | none => unknownFilter? nodes
  | _ :: nodes => unknownFilter? nodes

/-- The nodes of a template source. -/
def parse
    (source : Text) :
    Except ParseError (List Node) :=
  match (Piece.ofSource? source).bind (build [] []) with
  | none => .error .malformed
  | some nodes =>
      match unknownFilter? nodes with
      | some name => .error (.unknownFilter name)
      | none => .ok nodes

end Node

end ModSkeleton.Template
