import Modforge.Template.Body

/-! # Bundled templates -/

namespace Modforge.Bundled

/-- A text of whole lines, each ended by a line feed. -/
def lines (texts : List String) : String :=
  String.join (texts.map (· ++ "\n"))

def blockModel : String :=
  lines [
    "\x7b",
    "\t\"parent\": \"block/cube_all\",",
    "\t\"textures\": \x7b",
    "\t\t\"all\": \"$\x7bmodid\x7d:block/$\x7bid\x7d\"",
    "\t\x7d",
    "\x7d"]

def blockState : String :=
  lines [
    "\x7b",
    "\t\"variants\": \x7b",
    "\t\t\"\": \x7b",
    "\t\t\t\"model\": \"$\x7bmodid\x7d:block/$\x7bid\x7d\"",
    "\t\t\x7d",
    "\t\x7d",
    "\x7d"]

def itemModel : String :=
  lines [
    "\x7b",
    "\t\"parent\": \"item/generated\",",
    "\t\"textures\": \x7b",
    "\t\t\"layer0\": \"$\x7bmodid\x7d:item/$\x7bid\x7d\"",
    "\t\x7d",
    "\x7d"]

def blockItemModel : String :=
  lines [
    "\x7b",
    "\t\"parent\": \"$\x7bmodid\x7d:block/$\x7bid\x7d\"",
    "\x7d"]

def dropOther : String :=
  lines [
    "\x7b",
    "\t\"type\": \"minecraft:block\",",
    "\t\"pools\": [",
    "\t\t\x7b",
    "\t\t\t\"rolls\": 1,",
    "\t\t\t\"entries\": [",
    "\t\t\t\t\x7b",
    "\t\t\t\t\t\"type\": \"minecraft:item\",",
    "\t\t\t\t\t\"name\": \"%s\"",
    "\t\t\t\t\x7d",
    "\t\t\t],",
    "\t\t\t\"conditions\": [",
    "\t\t\t\t\x7b",
    "\t\t\t\t\t\"condition\": \"minecraft:survives_explosion\"",
    "\t\t\t\t\x7d",
    "\t\t\t]",
    "\t\t\x7d",
    "\t]",
    "\x7d"]

/-- The block drops itself, which is the given item of its own id. -/
def dropSelf : String :=
  dropOther

def dropSelfSilk : String :=
  lines [
    "\x7b",
    "\t\"type\": \"minecraft:block\",",
    "\t\"pools\": [",
    "\t\t\x7b",
    "\t\t\t\"rolls\": 1,",
    "\t\t\t\"entries\": [",
    "\t\t\t\t\x7b",
    "\t\t\t\t\t\"type\": \"minecraft:item\",",
    "\t\t\t\t\t\"name\": \"%s\"",
    "\t\t\t\t\x7d",
    "\t\t\t],",
    "\t\t\t\"conditions\": [",
    "\t\t\t\t\x7b",
    "\t\t\t\t\t\"condition\": \"minecraft:match_tool\",",
    "\t\t\t\t\t\"predicate\": \x7b",
    "\t\t\t\t\t\t\"enchantments\": [",
    "\t\t\t\t\t\t\t\x7b",
    "\t\t\t\t\t\t\t\t\"enchantment\": \"minecraft:silk_touch\",",
    "\t\t\t\t\t\t\t\t\"levels\": \x7b",
    "\t\t\t\t\t\t\t\t\t\"min\": 1",
    "\t\t\t\t\t\t\t\t\x7d",
    "\t\t\t\t\t\t\t\x7d",
    "\t\t\t\t\t\t]",
    "\t\t\t\t\t\x7d",
    "\t\t\t\t\x7d",
    "\t\t\t]",
    "\t\t\x7d",
    "\t]",
    "\x7d"]

def registrarLayout : String :=
  lines [
    "\x7b% if package %\x7dpackage \x7b\x7b package \x7d\x7d;",
    "",
    "\x7b% endif %\x7d/**",
    " * Registration glue for \x7b\x7b owner \x7d\x7d (\x7b\x7b namespace \x7d\x7d).",
    " * Generated by modgen; do not edit.",
    " */",
    "public final class \x7b\x7b registrar_name \x7d\x7d \x7b",
    "\tprivate \x7b\x7b registrar_name \x7d\x7d() \x7b",
    "\t\x7d",
    "",
    "\tpublic static void register() \x7b",
    "\x7b% for statement in statements %\x7d\t\t\x7b\x7b statement \x7d\x7d;",
    "\x7b% endfor %\x7d\t\x7d",
    "\x7d"]

def files : List (String × String) :=
  [("block/basic.json", blockModel),
    ("block_state/basic.json", blockState),
    ("item/basic.json", itemModel),
    ("item/block.json", blockItemModel),
    ("loot/drop_other.json", dropOther),
    ("loot/drop_self.json", dropSelf),
    ("loot/drop_self_silk.json", dropSelfSilk),
    ("source/registrar.java.tera", registrarLayout)]

/-- The text under a path, in which a backslash counts as a slash. -/
def find? (path : String) : Option String :=
  files.lookup (Text.replace "\\" "/" path)

def templates (space : String) : List Template :=
  [("basic", .block, blockModel),
    ("basic", .blockState, blockState),
    ("basic", .item, itemModel),
    ("block", .item, blockItemModel),
    ("drop_other", .loot, dropOther),
    ("drop_self", .loot, dropSelf),
    ("drop_self_silk", .loot, dropSelfSilk)].map fun (name, kind, body) =>
      Template.make name kind body space .builtin

end Modforge.Bundled
