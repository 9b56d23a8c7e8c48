import MarkdownDialects.Substitution.Template

/-!
# Substitution rules

A rule replaces every match of its pattern.  A rule set runs its rules in order over a whole text,
each rule seeing what the one before it wrote.
-/

namespace MarkdownDialects

/-- Which way a rule works: into the neutral form, or out of it. -/
inductive Direction where
  | ingest
  | emit
deriving DecidableEq

/-- How a match becomes its replacement. -/
inductive Replacement where
  | template (text : Text)
  | literal (text : Text)
  | compute (f : Match → Text)

/-- The text that takes the place of a match. -/
def Replacement.ofMatch : Replacement → Match → Text
  | .template text, m => Template.expand text m
  | .literal text, _ => text
  | .compute f, m => f m

/-- A named substitution rule. -/
structure Rule where
  name : String
  direction : Direction
  pattern : Pattern
  replacement : Replacement

namespace Rule

/-- A rule that replaces one fixed text by another. -/
def literal (name : String) (direction : Direction) (needle replacement : Text) : Rule :=
  ⟨name, direction, Pattern.literal needle, .literal replacement⟩

/-- A text with every match of the rule replaced. -/
def apply (r : Rule) (t : Text) : Text := r.pattern.replaceAll r.replacement.ofMatch t

@[simp]
theorem apply_compute (name : String) (direction : Direction) (p : Pattern) (f : Match → Text)
    (t : Text) : apply ⟨name, direction, p, .compute f⟩ t = p.replaceAll f t := rfl

@[simp]
theorem apply_template (name : String) (direction : Direction) (p : Pattern)
    (template t : Text) :
    apply ⟨name, direction, p, .template template⟩ t = p.replaceAll (Template.expand template) t :=
  rfl

/-- Whether the rule has any match in a text. -/
def applies (r : Rule) (t : Text) : Bool := !(r.pattern.findAll t).isEmpty

end Rule

/-- Rules in the order in which they run. -/
abbrev RuleSet := List Rule

/-- What one rule did in a run: whether it matched, and the text after it. -/
structure RuleStep where
  rule : Rule
  matched : Bool
  text : Text

namespace RuleSet

/-- The names of the rules in order. -/
def names (rules : RuleSet) : List String := rules.map Rule.name

/-- A text after every rule has run. -/
def apply (rules : RuleSet) (t : Text) : Text := rules.foldl (fun t r => r.apply t) t

@[simp]
theorem apply_nil (t : Text) : apply [] t = t := rfl

@[simp]
theorem apply_cons (r : Rule) (rules : RuleSet) (t : Text) :
    apply (r :: rules) t = apply rules (r.apply t) := rfl

/-- Rule sets run one after the other as one rule set. -/
theorem apply_append (first second : RuleSet) (t : Text) :
    apply (first ++ second) t = apply second (apply first t) := List.foldl_append

/-- The run of a rule set, step by step. -/
def steps : RuleSet → Text → List RuleStep
  | [], _ => []
  | r :: rest, t => ⟨r, r.applies t, r.apply t⟩ :: steps rest (r.apply t)

end RuleSet

end MarkdownDialects
