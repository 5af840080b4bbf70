import ClassForge.Generate.Code
import ClassForge.Proofs.Php.Written
import ClassForge.Proofs.TypeScript.Written

/-!
# Outcomes of Generation

When code is generated, and why not otherwise. There are two reasons, and neither
depends on both the spec and the configuration: the spec has no section for the
language, or the lead of one level is too long to be held. The second is no
matter of the spec, because every generated file holds a class, and a class asks
for that lead even if there is nothing in it.

## Theorems

* `text_cases`: What generation comes to.
* `className_of_text`: A spec whose code is generated has a class.
* `exists_text`: A spec that has a class has code.
* `text_php`: Generated code, written down.
* `text_ne_ok_of_overflow`: Where one spec overflows, no code is generated.
-/

namespace ClassForge

namespace Generate

open Print

variable {config : Config}

/-- The text of an outline whose draft asks for the lead depends on that lead
    alone. -/
theorem fileText_of_asks {outline : Outline} {draft : Draft String}
    (hdraft : (outline.print (.initial config middlewares)).map Prod.fst
      = (draft.settle config).map Except.ok) (hasks : draft.asks = true) :
    fileText config outline
      = match config.indent.process 1 with
        | .ok lead => .ok (draft.value lead ++ "\n")
        | .error cause => .error (.overflow cause) := by
  unfold fileText
  cases hlead : config.indent.process 1 with
  | ok lead =>
      rw [Draft.settle_of_ok hlead] at hdraft
      cases hprint : outline.print (.initial config middlewares) with
      | error cause =>
          rw [hprint] at hdraft
          cases hdraft
      | ok printed =>
          rcases printed with ⟨result, journal⟩
          rw [hprint] at hdraft
          cases hdraft
          rfl
  | error cause =>
      rw [Draft.settle_of_error hlead, if_pos hasks] at hdraft
      cases hprint : outline.print (.initial config middlewares) with
      | error other =>
          rw [hprint] at hdraft
          cases hdraft
          rfl
      | ok printed =>
          rw [hprint] at hdraft
          cases hdraft

/-- What generation comes to: there is no section for the language, or the class
    has a name and the text is decided by the lead of one level. -/
theorem text_cases (language : Spec.Language) (spec : Spec) (config : Config) :
    (∃ error, className language spec = .error (.spec error) ∧
        text language spec config = .error (.spec error)) ∨
      ∃ name, className language spec = .ok name ∧ ∃ draft : Draft String,
        text language spec config
          = match config.indent.process 1 with
            | .ok lead => .ok (draft.value lead ++ "\n")
            | .error cause => .error (.overflow cause) := by
  -- Either the section of the language is missing, or the file is printed and asks for the lead.
  cases language with
  | php =>
      cases hphp : spec.php with
      | error error =>
          refine .inl ⟨error, ?_, ?_⟩
          · rw [className, hphp]
            rfl
          · rw [text, outline, hphp]
            rfl
      | ok php =>
          have hclass : className .php spec = .ok php.className := by
            rw [className, hphp]
            rfl
          have hfile := fileText_of_asks
            (Php.print_eq_settle config (Php.fileStatements php spec.fields)) rfl
          have htext : text .php spec config = fileText config
              (Php.fileOutline (Php.fileStatements php spec.fields)) := by
            rw [text, outline_php hphp]
            rfl
          exact .inr ⟨_, hclass, _, htext.trans hfile⟩
  | ts =>
      cases hts : spec.ts with
      | error error =>
          refine .inl ⟨error, ?_, ?_⟩
          · rw [className, hts]
            rfl
          · rw [text, outline, hts]
            rfl
      | ok ts =>
          have hclass : className .ts spec = .ok ts.className := by
            rw [className, hts]
            rfl
          have hfile := fileText_of_asks
            (TypeScript.print_eq_settle config (TypeScript.fileStatements ts spec.fields)) rfl
          have htext : text .ts spec config = fileText config
              (TypeScript.fileOutline (TypeScript.fileStatements ts spec.fields)) := by
            rw [text, outline_ts hts]
            rfl
          exact .inr ⟨_, hclass, _, htext.trans hfile⟩

theorem className_of_text {language : Spec.Language} {spec : Spec} {code : String}
    (htext : text language spec config = .ok code) :
    ∃ name, className language spec = .ok name := by
  rcases text_cases language spec config with ⟨error, -, herror⟩ | ⟨name, hname, -⟩
  · rw [herror] at htext
    cases htext
  · exact ⟨name, hname⟩

/-- A spec that has a class has code, where the lead of one level can be held. -/
theorem exists_text {language : Spec.Language} {spec : Spec} {name lead : String}
    (hname : className language spec = .ok name) (hlead : config.indent.process 1 = .ok lead) :
    ∃ code, text language spec config = .ok code := by
  rcases text_cases language spec config with ⟨error, herror, -⟩ | ⟨-, -, draft, hdraft⟩
  · rw [herror] at hname
    cases hname
  · rw [hlead] at hdraft
    exact ⟨_, hdraft⟩

theorem lead_standard : Config.standard.indent.process 1 = .ok "    " := rfl

/-- Generated code, written down. -/
theorem text_php {spec : Spec} {php : Spec.PhpSection} {lead : String} (hphp : spec.php = .ok php)
    (hlead : config.indent.process 1 = .ok lead) :
    text .php spec config
      = .ok (Php.fileText lead (Php.fileStatements php spec.fields) ++ "\n") := by
  have hfile := fileText_of_asks
    (Php.print_eq_settle config (Php.fileStatements php spec.fields)) rfl
  simp only [hlead, Php.value_file] at hfile
  rw [text, outline_php hphp]
  exact hfile

/-- The same class in another namespace has another text, whatever is in it. -/
theorem namespace_of_fileText {lead name first second : String} {fields : List Spec.Field}
    (h : Php.fileText lead (Php.fileStatements ⟨first, name⟩ fields)
      = Php.fileText lead (Php.fileStatements ⟨second, name⟩ fields)) : first = second := by
  unfold Php.fileText Php.fileStatements at h
  simp only [Php.statementTexts, Php.statementText, String.intercalate_cons_cons] at h
  have hchars := congrArg String.toList h
  simp only [String.toList_append, List.append_assoc, List.append_cancel_left_eq,
    List.append_cancel_right_eq] at hchars
  exact String.toList_injective hchars

/-- Whether anything overflows is up to the configuration, so where it does for
    one spec, no code is generated from any. -/
theorem text_ne_ok_of_overflow {language : Spec.Language} {spec : Spec} {cause : Overflow}
    (htext : text language spec config = .error (.overflow cause)) (other : Spec) (code : String) :
    text language other config ≠ .ok code := by
  rcases text_cases language spec config with ⟨error, -, herror⟩ | ⟨-, -, draft, hdraft⟩
  · rw [herror] at htext
    cases htext
  · cases hlead : config.indent.process 1 with
    | ok lead =>
        rw [hdraft, hlead] at htext
        cases htext
    | error _ =>
        rcases text_cases language other config with ⟨error, -, herror⟩ | ⟨-, -, draft, hdraft⟩
        · rw [herror]
          nofun
        · rw [hdraft, hlead]
          nofun

end Generate

end ClassForge
