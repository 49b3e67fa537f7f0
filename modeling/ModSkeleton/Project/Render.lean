import ModSkeleton.Project.Layout
import ModSkeleton.Request.Brief
import ModSkeleton.Toolchain.Settings

namespace ModSkeleton.Project

/-!
# Rendering a project

Rendering turns a brief and settings into the files of a project without
touching any file tree. Every item is rendered in one context, which names the
settings first and the facts of the brief after them.
-/

/-- A rendered file: the names that lead to it from the root, and its content. -/
structure File where
  names : List Text
  content : Text
  deriving Repr, DecidableEq

namespace File

/-- The path of a file below the root of its project. -/
def path
    (file : File) :
    Path :=
  ⟨.relative, file.names⟩

end File

/-- Why a project cannot be rendered. -/
inductive Error where
  | wrongKind (fault : Json.WrongKind)
  | template (error : Template.TemplateError)
  deriving Repr, DecidableEq

/-- The facts of a brief under the names that templates use. -/
def briefContext
    (brief : Brief)
    (names : DerivedNames) :
    Template.Context :=
  [("mod_id".toList, brief.modId),
   ("mod_name".toList, brief.modName),
   ("main_class".toList, brief.mainClass),
   ("package".toList, .text names.package),
   ("package_path".toList, .text names.packagePath),
   ("class_name".toList, .text names.className),
   ("maven_group".toList, .text names.mavenGroup),
   ("archives_base_name".toList, names.archivesBaseName),
   ("kotlin".toList, .bool (brief.language == .kotlin)),
   ("source_dir".toList, .text brief.language.sourceDir),
   ("extension".toList, .text brief.language.extension)]

/-- The context in which all templates of a project are rendered. -/
def context
    (brief : Brief)
    (settings : Settings) :
    Except Error Template.Context :=
  match settings.context, brief.names with
  | .error fault, _ => .error (.wrongKind fault)
  | .ok _, .error fault => .error (.wrongKind fault)
  | .ok versions, .ok names => .ok (versions ++ briefContext brief names)

/-- The file of an item in a context: its path is rendered first. -/
def renderItem
    (context : Template.Context)
    (item : Item) :
    Except Error File :=
  match Template.renderSource context item.output with
  | .error error => .error (.template error)
  | .ok output =>
      match bundled.render context item.template with
      | .error error => .error (.template error)
      | .ok content => .ok ⟨Path.components output, content⟩

/-- The files of items in a context, in order. -/
def renderItems
    (context : Template.Context) :
    List Item → Except Error (List File)
  | [] => .ok []
  | item :: items =>
      match renderItem context item with
      | .error error => .error error
      | .ok file =>
          match renderItems context items with
          | .error error => .error error
          | .ok files => .ok (file :: files)

/-- The files of the project that a brief asks for. -/
def render
    (brief : Brief)
    (settings : Settings) :
    Except Error (List File) :=
  match context brief settings with
  | .error error => .error error
  | .ok context => renderItems context (items brief.language)

end ModSkeleton.Project
