import TableFile.Error
import TableFile.Text.Blank

namespace TableFile.Console

structure Directory where
  files : List (String × Bytes)

namespace Directory

inductive Place where
  | here
  | outside
  | file (content : Bytes)

/-- One more name on a path. Nothing is known of what lies outside, save the directories above. -/
def enter (directory : Directory) (name : List Char) : Place → Except FileFault Place
  | .file _ => .error .notDirectory
  | .outside =>
    if name = [] ∨ name = ['.'] ∨ name = ['.', '.'] then .ok .outside else .error .notFound
  | .here =>
    if name = [] ∨ name = ['.'] then .ok .here
    else if name = ['.', '.'] then .ok .outside
    else
      match directory.files.find? fun file ↦ file.1.toList = name with
      | some file => .ok (.file file.2)
      | none => .error .notFound

def read (directory : Directory) (path : String) : Except FileFault Bytes :=
  match Text.splitWhere (· = '/') path.toList with
  | [] => .error .notFound
  | [[]] => .error .notFound
  | first :: names => do
    let start ← if first = [] then .ok .outside else directory.enter first .here
    match ← names.foldlM (fun place name ↦ directory.enter name place) start with
    | .file content => return content
    | _ => throw .isDirectory

end Directory

end TableFile.Console
