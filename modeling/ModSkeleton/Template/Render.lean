import ModSkeleton.Groovy
import ModSkeleton.Json.Writer
import ModSkeleton.Template.Node
import ModSkeleton.Text.Compatible

namespace ModSkeleton.Template

/-!
# Rendering

Rendering walks the nodes in order and evaluates each expression in a scope. A
name that the scope does not bind is no error by itself; it becomes one when the
name is printed, concatenated, tested or filtered. The first error decides, and a
branch that is not taken is not evaluated.

Each name of a template is kept in a variable. Names that are spellings of one
identifier share their variable, so one of them has the value of another.
-/

/-- The values that names are bound to. -/
abbrev Context := List (Text × Json.Value)

/-- The names that a template can use: those of a context, and its own; and those it does use. -/
structure Scope where
  template? : Option Text
  context : Context
  names : List Text
  deriving Repr

/-- Why a template cannot be rendered in a scope. -/
inductive RenderError where
  | undefined (name : Text)
  | notJson (kind : Text)
  | wrongKind (fault : Json.WrongKind)
  | wrongType (typeName : Text) (wanted : Text)
  | unknownFilter (name : Text)
  | ownNameBound
  deriving Repr, DecidableEq

namespace RenderError

/-- The wording of an error. -/
def message : RenderError → Text
  | .undefined name => Text.quoted name ++ " is undefined".toList
  | .notJson kind => "Object of type ".toList ++ kind ++ " is not JSON serializable".toList
  | .wrongKind fault => fault.message
  | .wrongType typeName wanted =>
      "type object ".toList ++ Text.quoted typeName ++ " has no attribute ".toList ++
        Text.quoted wanted
  | .unknownFilter name => "No filter named ".toList ++ Text.quoted name ++ " found.".toList
  | .ownNameBound => "Template.render() got multiple values for argument 'self'".toList

end RenderError

/-- What every template knows without a context. -/
inductive Builtin where
  | type (library : Text) (typeName : Text)
  | procedure (name : Text)
  | reference (template? : Option Text)
  | missing
  deriving Repr, DecidableEq

namespace Builtin

/-- The name by which a template refers to itself. -/
def ownName : Text :=
  "self".toList

/-- The library that the types of the template language come from. -/
def typeLibrary : Text :=
  "jinja2.utils.".toList

/-- The names that are bound in every scope, apart from the own one. -/
def shared : List (Text × Builtin) :=
  [("range".toList, .type [] "range".toList),
   ("dict".toList, .type [] "dict".toList),
   ("lipsum".toList, .procedure "generate_lorem_ipsum".toList),
   ("cycler".toList, .type typeLibrary "Cycler".toList),
   ("joiner".toList, .type typeLibrary "Joiner".toList),
   ("namespace".toList, .type typeLibrary "Namespace".toList)]

/-- What a name is bound to in every scope of a template. -/
def find?
    (template? : Option Text)
    (word : Text) :
    Option Builtin :=
  if word = ownName then some (.reference template?) else shared.lookup word

/-- A builtin as it is printed. -/
def display : Builtin → Text
  | .type library typeName => "<class '".toList ++ library ++ typeName ++ "'>".toList
  | .procedure name => "<function ".toList ++ name ++ ['>']
  | .reference none => "<TemplateReference None>".toList
  | .reference (some name) => "<TemplateReference ".toList ++ Text.quoted name ++ ['>']
  | .missing => "missing".toList

/-- The name by which messages call the kind of a builtin. -/
def kindName : Builtin → Text
  | .type _ _ => "type".toList
  | .procedure _ => "function".toList
  | .reference _ => "TemplateReference".toList
  | .missing => "MissingType".toList

/-- The error of asking a builtin for something it does not have. -/
def lacks
    (builtin : Builtin)
    (wanted : Text) :
    RenderError :=
  match builtin with
  | .type _ typeName => .wrongType typeName wanted
  | other => .wrongKind ⟨other.kindName, wanted⟩

end Builtin

namespace Expr

mutual

/-- The names in an expression, in order. -/
def names : Expr → List Text
  | .constant _ => []
  | .name word => [word]
  | .concat operands => namesIn operands
  | .filtered _ operand => names operand
  | .negation operand => names operand
  | .conjunction operands => namesIn operands
  | .disjunction operands => namesIn operands
  | .tuple items => namesIn items

/-- The names in some expressions, in order. -/
def namesIn : List Expr → List Text
  | [] => []
  | expr :: exprs => names expr ++ namesIn exprs

end

end Expr

namespace Node

mutual

/-- The names in a node, in order. -/
def names : Node → List Text
  | .text _ => []
  | .output expr => expr.names
  | .choice test yes no => test.names ++ (namesIn yes ++ namesIn no)

/-- The names in some nodes, in order. -/
def namesIn : List Node → List Text
  | [] => []
  | node :: nodes => names node ++ namesIn nodes

end

end Node

namespace Scope

/--
The names for which the variable of a name is set, one after another. Variables are set
before anything is rendered, for each name in the order in which the names first occur,
and for the own name before all others.
-/
def sharing
    (scope : Scope)
    (word : Text) :
    List Text :=
  (scope.names.filter (· ≠ Builtin.ownName)).eraseDups.filter fun name =>
    Text.compatibleForm name = Text.compatibleForm word

/-- The name that decides on the value of a name: the last that shares its variable. -/
def decider
    (scope : Scope)
    (word : Text) :
    Text :=
  (scope.sharing word).getLastD word

end Scope

/-- What an expression evaluates to. -/
inductive Operand where
  | bound (value : Json.Value)
  | tuple (items : List Operand)
  | builtin (object : Builtin)
  | undefined (name : Text)
  deriving Repr

namespace Operand

mutual

/-- An operand inside a tuple as it is shown. -/
def shown : Operand → Text
  | .bound value => value.shown
  | .tuple items => '(' :: (shownItems items ++ if items.length = 1 then [',', ')'] else [')'])
  | .builtin object => object.display
  | .undefined _ => "Undefined".toList

/-- The items of a tuple, separated by a comma and a space. -/
def shownItems : List Operand → Text
  | [] => []
  | [item] => shown item
  | item :: next :: items => shown item ++ ", ".toList ++ shownItems (next :: items)

end

mutual

/-- An operand as a value, in which tuples are lists, or the kind of what is none. -/
def toValue : Operand → Except Text Json.Value
  | .bound value => .ok value
  | .tuple items =>
      match toValues items with
      | .ok values => .ok (.list values)
      | .error kind => .error kind
  | .builtin object => .error object.kindName
  | .undefined _ => .error "StrictUndefined".toList

/-- Operands as values, or the kind of the first that is none. -/
def toValues : List Operand → Except Text (List Json.Value)
  | [] => .ok []
  | operand :: operands =>
      match toValue operand with
      | .error kind => .error kind
      | .ok value =>
          match toValues operands with
          | .error kind => .error kind
          | .ok values => .ok (value :: values)

end

/-- The text of an operand, which has to be defined. -/
def printed : Operand → Except RenderError Text
  | .bound value => .ok value.display
  | .undefined name => .error (.undefined name)
  | other => .ok other.shown

/-- Whether an operand counts as present; it has to be defined. -/
def truthy : Operand → Except RenderError Bool
  | .bound value => .ok value.truthy
  | .tuple items => .ok (!items.isEmpty)
  | .builtin _ => .ok true
  | .undefined name => .error (.undefined name)

/-- The texts of operands, one after another. -/
def printedAll : List Operand → Except RenderError Text
  | [] => .ok []
  | operand :: operands =>
      match operand.printed with
      | .error error => .error error
      | .ok text =>
          match printedAll operands with
          | .error error => .error error
          | .ok texts => .ok (text ++ texts)

/-- What a name stands for in a scope; the own name is not asked whether it is defined. -/
def ofName
    (scope : Scope)
    (word : Text) :
    Operand :=
  let decider := scope.decider word
  match scope.context.lookup decider, Builtin.find? scope.template? decider with
  | some value, _ => .bound value
  | none, some object => .builtin object
  | none, none => if word = Builtin.ownName then .builtin .missing else .undefined word

end Operand

namespace Filter

/-- What a quoted text for a build script replaces characters by. -/
def groovyNeeds : Text :=
  "replace".toList

/-- What a filter makes of a value. -/
def applyToValue
    (filter : Filter)
    (value : Json.Value) :
    Except RenderError Text :=
  match filter, value with
  | .jsonString, value => .ok value.write
  | .groovyString, .text text => .ok (Groovy.quote text)
  | .groovyString, value => .error (.wrongKind ⟨value.kindName, groovyNeeds⟩)
  | .unknown name, _ => .error (.unknownFilter name)

/-- What a filter makes of an operand. -/
def apply
    (filter : Filter)
    (operand : Operand) :
    Except RenderError Text :=
  match filter, operand with
  | filter, .bound value => filter.applyToValue value
  | .jsonString, operand =>
      match operand.toValue with
      | .ok value => .ok value.write
      | .error kind => .error (.notJson kind)
  | .groovyString, .undefined name => .error (.undefined name)
  | .groovyString, .tuple _ => .error (.wrongKind ⟨"tuple".toList, groovyNeeds⟩)
  | .groovyString, .builtin object => .error (object.lacks groovyNeeds)
  | .unknown name, _ => .error (.unknownFilter name)

end Filter

namespace Expr

mutual

/-- Evaluate an expression in a scope. -/
def eval
    (scope : Scope) :
    Expr → Except RenderError Operand
  | .constant value => .ok (.bound value)
  | .name word => .ok (.ofName scope word)
  | .concat operands =>
      match evalAll scope operands with
      | .error error => .error error
      | .ok operands =>
          match Operand.printedAll operands with
          | .error error => .error error
          | .ok text => .ok (.bound (.text text))
  | .filtered filter operand =>
      match eval scope operand with
      | .error error => .error error
      | .ok operand =>
          match filter.apply operand with
          | .error error => .error error
          | .ok text => .ok (.bound (.text text))
  | .negation operand =>
      match eval scope operand with
      | .error error => .error error
      | .ok operand =>
          match operand.truthy with
          | .error error => .error error
          | .ok holds => .ok (.bound (.bool !holds))
  | .conjunction operands => evalUntil scope false operands
  | .disjunction operands => evalUntil scope true operands
  | .tuple items =>
      match evalAll scope items with
      | .error error => .error error
      | .ok items => .ok (.tuple items)

/-- Evaluate expressions in order. -/
def evalAll
    (scope : Scope) :
    List Expr → Except RenderError (List Operand)
  | [] => .ok []
  | expr :: exprs =>
      match eval scope expr with
      | .error error => .error error
      | .ok operand =>
          match evalAll scope exprs with
          | .error error => .error error
          | .ok operands => .ok (operand :: operands)

/-- Evaluate expressions in order up to the first that is found to hold or not to hold. -/
def evalUntil
    (scope : Scope)
    (wanted : Bool) :
    List Expr → Except RenderError Operand
  | [] => .ok (.bound (.bool !wanted))
  | [expr] => eval scope expr
  | expr :: next :: exprs =>
      match eval scope expr with
      | .error error => .error error
      | .ok operand =>
          match operand.truthy with
          | .error error => .error error
          | .ok holds =>
              if holds = wanted then .ok operand else evalUntil scope wanted (next :: exprs)

end

/-- The text that an expression prints. -/
def print
    (scope : Scope)
    (expr : Expr) :
    Except RenderError Text :=
  match expr.eval scope with
  | .error error => .error error
  | .ok operand => operand.printed

/-- Whether an expression holds when it is tested. -/
def test
    (scope : Scope)
    (expr : Expr) :
    Except RenderError Bool :=
  match expr.eval scope with
  | .error error => .error error
  | .ok operand => operand.truthy

end Expr

namespace Node

mutual

/-- The text of one node in a scope. -/
def render
    (scope : Scope) :
    Node → Except RenderError Text
  | .text content => .ok content
  | .output expr => expr.print scope
  | .choice test yes no =>
      match test.test scope with
      | .error error => .error error
      | .ok true => renderAll scope yes
      | .ok false => renderAll scope no

/-- The text of nodes in a scope, one after another. -/
def renderAll
    (scope : Scope) :
    List Node → Except RenderError Text
  | [] => .ok []
  | node :: nodes =>
      match render scope node with
      | .error error => .error error
      | .ok first =>
          match renderAll scope nodes with
          | .error error => .error error
          | .ok others => .ok (first ++ others)

end

end Node

/-- Why a source cannot be turned into text. -/
inductive TemplateError where
  | parse (error : ParseError)
  | render (error : RenderError)
  | notFound (name : Text)
  deriving Repr, DecidableEq

/-- The text of a template source, which may have a name, in a context. -/
def renderAs
    (template? : Option Text)
    (context : Context)
    (source : Text) :
    Except TemplateError Text :=
  match Node.parse source with
  | .error error => .error (.parse error)
  | .ok nodes =>
      if (context.lookup Builtin.ownName).isSome then .error (.render .ownNameBound)
      else
        match Node.renderAll ⟨template?, context, Node.namesIn nodes⟩ nodes with
        | .error error => .error (.render error)
        | .ok text => .ok text

/-- The text of a template source without a name in a context. -/
def renderSource
    (context : Context)
    (source : Text) :
    Except TemplateError Text :=
  renderAs none context source

/-- A directive on a line of its own leaves nothing of the line. -/
example :
    (renderSource [("on".toList, .bool true)]
        "a\n  {% if on %}\nb\n  {% endif %}\nc".toList).toOption =
      some "a\nb\nc".toList := by
  decide +kernel

/-- What a name is bound to is never read as a template again. -/
example :
    (renderSource [("name".toList, .text "{{ name }}".toList)]
        "<{{ name }}>".toList).toOption =
      some "<{{ name }}>".toList := by
  decide +kernel

/-- Two spellings of one identifier share the value of the one that occurs later. -/
example :
    (renderSource [("ﬁ".toList, .int 1), ("fi".toList, .int 2)]
        "{{ ﬁ }} {{ fi }}".toList).toOption =
      some "2 2".toList := by
  decide +kernel

end ModSkeleton.Template
