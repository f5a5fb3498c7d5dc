import HugePool.Text.Quoted

/-!
# Descriptions of values

A `Layout` is the description of a value for a reader: a bare text, a name applied to values, or a
name with labelled values.  It is written on one line by `Layout.line` and over several lines by
`Layout.indented`:

```text
Region { start: VA(0x1000), pages: 2 }         Region {
                                                   start: VA(0x1000),
                                                   pages: 2,
                                               }
```

A record that keeps some of its content to itself ends in `..`.
-/

namespace HugePool.Text

/-- The description of a value. -/
inductive Layout where
  /-- A text written as it is. -/
  | bare (text : String)
  /-- A name applied to values in parentheses. -/
  | applied (name : String) (values : List Layout)
  /-- A name with labelled values in braces; `whole` is false when content is left out. -/
  | record (name : String) (fields : List (String × Layout)) (whole : Bool)

namespace Layout

/-- A number in decimal. -/
def nat (n : Nat) : Layout := .bare (toString n)

/-- A word in decimal. -/
def word (w : UInt64) : Layout := .bare (toString w.toNat)

/-- A truth value. -/
def bool (b : Bool) : Layout := .bare (toString b)

/-- A string in quotes. -/
def quoted (s : String) : Layout := .bare (Text.quote s)

mutual

/-- The description on one line. -/
def line : Layout → String
  | .bare text => text
  | .applied name values => name ++ "(" ++ lineValues values ++ ")"
  | .record name fields whole =>
    name ++ " \x7b " ++ lineFields fields ++ (if whole then " \x7d" else ", .. \x7d")

/-- Values on one line, with commas between them. -/
def lineValues : List Layout → String
  | [] => ""
  | [value] => value.line
  | value :: rest => value.line ++ ", " ++ lineValues rest

/-- Labelled values on one line, with commas between them. -/
def lineFields : List (String × Layout) → String
  | [] => ""
  | [(label, value)] => label ++ ": " ++ value.line
  | (label, value) :: rest => label ++ ": " ++ value.line ++ ", " ++ lineFields rest

end

/-- Four blanks for each level of nesting. -/
def margin (depth : Nat) : String :=
  String.ofList (List.replicate (4 * depth) ' ')

mutual

/-- The description over several lines, with the content one level deeper than `depth`. -/
def indentedAt (depth : Nat) : Layout → String
  | .bare text => text
  | .applied name values =>
    name ++ "(\n" ++ indentedValues (depth + 1) values ++ margin depth ++ ")"
  | .record name fields whole =>
    name ++ " \x7b\n" ++ indentedFields (depth + 1) fields
      ++ (if whole then "" else margin (depth + 1) ++ "..\n") ++ margin depth ++ "\x7d"

/-- Values on lines of their own, each followed by a comma. -/
def indentedValues (depth : Nat) : List Layout → String
  | [] => ""
  | value :: rest =>
    margin depth ++ indentedAt depth value ++ ",\n" ++ indentedValues depth rest

/-- Labelled values on lines of their own, each followed by a comma. -/
def indentedFields (depth : Nat) : List (String × Layout) → String
  | [] => ""
  | (label, value) :: rest =>
    margin depth ++ label ++ ": " ++ indentedAt depth value ++ ",\n" ++ indentedFields depth rest

end

/-- The description over several lines. -/
def indented (layout : Layout) : String := layout.indentedAt 0

end Layout

end HugePool.Text
