import Datacat.Basics.Templates

/-!
# Expansion of the Configuration File

Every string of the file of the main instance is expanded once, before the file is read. What comes
of it follows from the grammar of the references.
-/

namespace Datacat.Settings

open Basics

def expandTexts : ExpandTexts where
  unterminated := "`$\x7b` non fermé dans la configuration TOML"
  noName := "`$\x7b\x7d` sans nom de variable d'environnement"
  notSet name := "variable d'environnement requise non définie : " ++ name

/-- **Expansion is a single pass.** A string is a template in exactly one way. The result is the
rendering of that template, and there is an error exactly when a reference is not closed, has no
name, or names a variable that is not set without a default. -/
theorem expandStr_single_pass (env : String → Option String) (input : String) :
    ∃ template : Template,
      (template.WellFormed ∧ template.source = input.toList) ∧
      (∀ other : Template, other.WellFormed ∧ other.source = input.toList → other = template) ∧
      (∀ out, expandStr expandTexts env input = .ok out ↔ template.Renders env out.toList) ∧
      ((∃ error, expandStr expandTexts env input = .error error) ↔ template.Refused env) := by
  obtain ⟨template, hformed, hsource⟩ := Template.exists_source input.toList
  refine ⟨template, ⟨hformed, hsource⟩, ?_, ?_, ?_⟩
  · intro other ⟨hother, hsame⟩
    exact Template.source_inj hother hformed (hsame.trans hsource.symm)
  · exact fun out => expandStr_ok_iff hformed hsource
  · exact expandStr_error_iff hformed hsource

/-- A value that looks like a reference stays as it is. -/
example :
    (expandStr expandTexts (fun _ => some "$\x7bB\x7d") "a-$\x7bA\x7d-$\x7bC:-d\x7d").toOption =
      some "a-$\x7bB\x7d-$\x7bB\x7d" := by
  decide +kernel

end Datacat.Settings
