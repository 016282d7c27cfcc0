import AstHierarchy.Language.Basic

/-!
# Python

The hierarchy is one module of frozen data classes. The name of a module is in lowercase.
-/

namespace AstHierarchy.Language

/-- The template of Python files. -/
def pythonTemplate : Text :=
  Text.unlines ([
    "#prelude",
    "from __future__ import annotations",
    "",
    "from abc import ABC, abstractmethod",
    "from dataclasses import dataclass",
    "from typing import Generic, TypeVar",
    "",
    "R = TypeVar(\"R\")",
    "#end/prelude",
    "",
    "#base",
    "class %base%(ABC):",
    "    @abstractmethod",
    "    def accept(self, visitor: Visitor[R]) -> R: ...",
    "#end/base",
    "",
    "#visitor",
    "class Visitor(ABC, Generic[R]):",
    "    %visit_methods%",
    "#end/visitor",
    "",
    "#visit_method",
    "@abstractmethod",
    "def %visit%(self, %param%: %type%) -> R: ...",
    "#end/visit_method",
    "",
    "#node",
    "@dataclass(frozen=True)",
    "class %type%(%base%):",
    "    %fields%",
    "",
    "    def accept(self, visitor: Visitor[R]) -> R:",
    "        return visitor.%visit%(self)",
    "#end/node",
    "",
    "#field",
    "%name%: %ty%",
    "#end/field"].map String.toList)

/-- Python, where a file declares no namespace. -/
def python : Language where
  id := "py".toList
  fileNameFor base := Text.lowercase base ++ ".py".toList
  template := pythonTemplate

end AstHierarchy.Language
