/-!
# Outlines

A tree of named groups, written on one line or with one entry per line.
-/

namespace BoxLang

/-- The brackets around the entries of a group. -/
inductive Enclosure
  | parentheses
  | brackets
  | braces

/-- Text with a nested structure. -/
inductive Outline
  | text (content : String)
  | labelled (label : String) (content : Outline)
  | group (name : String) (enclosure : Enclosure) (entries : List Outline)

namespace Enclosure

def opening : Enclosure → String
  | parentheses => "("
  | brackets => "["
  | braces => " \x7b"

def closing : Enclosure → String
  | parentheses => ")"
  | brackets => "]"
  | braces => "\x7d"

/-- What separates the brackets from the entries on one line. -/
def padding : Enclosure → String
  | parentheses => ""
  | brackets => ""
  | braces => " "

end Enclosure

namespace Outline

mutual

/-- Appends an outline to `written`, on one line. -/
def compactOnto (written : String) : Outline → String
  | .text content => written ++ content
  | .labelled label content => content.compactOnto (written ++ label ++ ": ")
  | .group name enclosure entries =>
      compactEntriesOnto
          (written ++ name ++ enclosure.opening ++ enclosure.padding) entries ++
        enclosure.padding ++ enclosure.closing

/-- Appends the entries of a group, with commas between them. -/
def compactEntriesOnto (written : String) : List Outline → String
  | [] => written
  | [entry] => entry.compactOnto written
  | entry :: entries => compactEntriesOnto (entry.compactOnto written ++ ", ") entries

end

/-- The outline on one line. -/
def compact (outline : Outline) : String :=
  outline.compactOnto ""

/-- The start of a line at a nesting level. -/
def indentation (level : Nat) : String :=
  String.ofList (List.replicate (4 * level) ' ')

mutual

/-- Appends an outline to `written`, whose last line is at the given level. -/
def indentedOnto (level : Nat) (written : String) : Outline → String
  | .text content => written ++ content
  | .labelled label content => content.indentedOnto level (written ++ label ++ ": ")
  | .group name enclosure [] => written ++ name ++ enclosure.opening ++ enclosure.closing
  | .group name enclosure (entry :: entries) =>
      indentedEntriesOnto (level + 1)
          (entry.indentedOnto (level + 1)
              (written ++ name ++ enclosure.opening ++ "\n" ++ indentation (level + 1)) ++
            ",\n")
          entries ++
        indentation level ++ enclosure.closing

/-- Appends entries, each on lines of its own that end in a comma. -/
def indentedEntriesOnto (level : Nat) (written : String) : List Outline → String
  | [] => written
  | entry :: entries =>
      indentedEntriesOnto level
        (entry.indentedOnto level (written ++ indentation level) ++ ",\n") entries

end

/-- The outline with one entry per line. -/
def indented (outline : Outline) : String :=
  outline.indentedOnto 0 ""

end Outline

end BoxLang
