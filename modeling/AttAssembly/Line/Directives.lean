import AttAssembly.Text.Basic
/-!
The directives that are known, and those whose numbers declare a variable.
-/
namespace AttAssembly

def sectionDirectives : List Text := [".text", ".data", ".bss", ".rodata", ".section"]

def dataDirectives : List Text :=
  [ ".byte", ".word", ".short", ".int", ".long", ".quad", ".ascii", ".asciiz", ".asciz", ".string",
    ".space", ".skip", ".zero"]

def otherDirectives : List Text :=
  [ ".global", ".globl", ".extern", ".align", ".balign", ".p2align", ".equ", ".set", ".comm",
    ".lcomm", ".type", ".size", ".file"]

def knownDirectives : List Text := sectionDirectives ++ dataDirectives ++ otherDirectives

def variableDirectives : List Text := [".byte", ".word", ".short", ".int", ".long", ".quad"]

end AttAssembly
