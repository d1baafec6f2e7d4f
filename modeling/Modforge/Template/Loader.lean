import Modforge.Files.Tree
import Modforge.Template.Body

/-! # Template files -/

namespace Modforge.Template

def defaultRoot : String := "."

def fileUnder (root file : String) : String := Path.join root file

def load (tree : FileTree) (root name : String) (kind : TemplateKind) (file space : String) :
    Except FileFault Template :=
  let path := fileUnder root file
  (tree.read path).map fun body => make name kind body space (.file path)

end Modforge.Template
