/-
# Graft.Helper -- the module that patched files import

The helper copies a node with all its children, so that every render has nodes of its own.  It is the one
file of the overlay that comes along, and it is served as it stands.
-/
import Graft.Text.Basic

namespace Graft.Helper

set_option autoImplicit false

/-- The name of the file in the overlay. -/
def fileName : Text := "deepCloneVnode.js".toList

/-- The name that patched files import the helper under. -/
def importName : Text := "fixNaiveuiIconCloneVnode".toList

def lines : List String := [
  "import \x7b cloneVNode, isVNode \x7d from 'vue'",
  "",
  "/**",
  " * Clone a vnode tree so every render gets its own copy.",
  " * Module-level icon vnodes otherwise keep a reference to the last",
  " * element they were mounted on.",
  " */",
  "export default function deepCloneVnode(vnode) \x7b",
  "  if (Array.isArray(vnode))",
  "    return vnode.map(deepCloneVnode)",
  "  if (!isVNode(vnode))",
  "    return vnode",
  "  const cloned = cloneVNode(vnode)",
  "  if (Array.isArray(vnode.children))",
  "    cloned.children = vnode.children.map(deepCloneVnode)",
  "  return cloned",
  "\x7d"]

/-- The text of the file; every line of it is ended. -/
def text : Text := lines.flatMap fun line => line.toList ++ ['\n']

end Graft.Helper
