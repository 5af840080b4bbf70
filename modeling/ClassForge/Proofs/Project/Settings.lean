import ClassForge.Project.Config
import ClassForge.Proofs.Json.Removal
import ClassForge.Proofs.Json.Words
import Mathlib.Data.List.Basic

/-!
# Settings and Their Defaults

A configuration that was written is read back, and every setting that is taken out of
what was written falls back to its default without any effect on the others. Defaults
stand in several places: for the configuration as a whole, for its parts, and for the
settings inside a part. That they agree is what makes it possible to say of every set of
removed keys what is read.

A configuration is read straight from the document, key by key, and a key must not
appear twice. A written object has no key twice, and removing some changes nothing about
that; so reading it comes down to looking up keys.

## Main definitions

* `Setting`: What can be configured, with the keys that lead to it.

## Theorems

* `once?_of_nodup`: If no key appears twice, one is looked up.
* `IndentOptions.ofDocument?_without`, `Config.ofDocument?_without`: What is read once
  some keys are removed.
* `settings_default_independently`: Configurations are read back, and defaults do not
  depend on each other.
-/

namespace ClassForge

namespace Project

open Json

/-- What can be configured. -/
inductive Setting where
  | indent
  | outDir
  | size
  | style
  | span
  deriving DecidableEq

/-- The keys that lead to a setting. -/
def Setting.path : Setting → List String
  | .indent => ["indent"]
  | .outDir => ["outDir"]
  | .size => ["indent", "size"]
  | .style => ["indent", "style"]
  | .span => ["indent", "span"]

theorem Setting.path_injective : Function.Injective Setting.path := by
  intro setting setting' h
  cases setting <;> cases setting' <;> first | rfl | exact absurd h (by decide)

section Reading

variable {members : List (Member String)}

/-- The members of a written object have the keys that were written. -/
theorem plainMembers?_membersSpelled (members : List (Member String)) :
    plainMembers? (Data.membersSpelled members)
      = some (members.map fun member => (member.key, member.value.spelled)) := by
  unfold plainMembers?
  induction members with
  | nil => rfl
  | cons member members ih =>
      rw [Data.membersSpelled, List.mapM_cons, ih, memberSpelled_eq]
      dsimp only [Member.key, Member.value]
      rw [text?_ofText]
      rfl

/-- If no key appears twice, reading one is looking it up. -/
theorem once?_of_nodup (hnodup : (members.map Member.key).Nodup) (key : String) :
    once? (members.map fun member => (member.key, member.value.spelled)) key
      = some (((Data.object members).get? key).map Data.spelled) := by
  unfold once?
  induction members with
  | nil => rfl
  | cons member members ih =>
      rw [List.map_cons, List.nodup_cons] at hnodup
      rw [List.map_cons, List.filter_cons]
      by_cases hkey : member.key = key
      · -- No other member has the key.
        have hothers : ∀ other ∈ members, other.key ≠ key := fun other hother heq =>
          hnodup.1 (List.mem_map.mpr ⟨other, hother, heq.trans hkey.symm⟩)
        have hrest : (members.map fun member => (member.key, member.value.spelled)).filter
            (fun member => member.1 = key) = [] := by
          refine List.filter_eq_nil_iff.mpr (List.forall_mem_map.mpr fun other hother => ?_)
          simpa only [decide_eq_true_eq] using hothers other hother
        rw [if_pos (decide_eq_true hkey), hrest, get?_object_cons,
          get?_object_eq_none_iff.mpr hothers, if_pos hkey]
        rfl
      · rw [get?_object_cons_of_ne hkey, if_neg (by simpa only [decide_eq_true_eq] using hkey)]
        exact ih hnodup.2

/-- The options of a written object without repeated keys. -/
theorem IndentOptions.ofDocument?_object (hnodup : (members.map Member.key).Nodup) :
    ofDocument? (Data.object members).spelled
      = ofParts? (((Data.object members).get? "size").map Data.spelled)
        (((Data.object members).get? "style").map Data.spelled)
        (((Data.object members).get? "span").map Data.spelled) := by
  rw [Data.spelled, ofDocument?, plainMembers?_membersSpelled, Option.bind_eq_bind,
    Option.bind_some, once?_of_nodup hnodup, once?_of_nodup hnodup, once?_of_nodup hnodup]
  rfl

/-- The configuration of a written object without repeated keys. -/
theorem Config.ofDocument?_object (hnodup : (members.map Member.key).Nodup) :
    ofDocument? (Data.object members).spelled
      = ofParts? (((Data.object members).get? "indent").map Data.spelled)
        (((Data.object members).get? "outDir").map Data.spelled) := by
  rw [Data.spelled, ofDocument?, plainMembers?_membersSpelled, Option.bind_eq_bind,
    Option.bind_some, once?_of_nodup hnodup, once?_of_nodup hnodup]
  rfl

theorem IndentOptions.ofParts?_of_orDefault {size style span : Option Document}
    {options : IndentOptions} (hsize : orDefault size? standard.size size = some options.size)
    (hstyle : orDefault StyleName.ofDocument? standard.style style = some options.style)
    (hspan : orDefault size? standard.span span = some options.span) :
    ofParts? size style span = some options := by
  rw [ofParts?, hsize, hstyle, hspan]
  rfl

theorem Config.ofParts?_of_orDefault {indent outDir : Option Document} {config : Config}
    (hindent : orDefault IndentOptions.ofDocument? standard.indent indent = some config.indent)
    (houtDir : orDefault outDir? standard.outDir outDir = some config.outDir) :
    ofParts? indent outDir = some config := by
  rw [ofParts?, hindent, houtDir]
  rfl

/-- A part that may have been removed is the default if it was, and what was written if
    not. -/
theorem orDefault_without {α : Type} {read : Document → Option α} {standard actual : α}
    {value : Value} (hread : read value.spelled = some actual) (removed : Bool) :
    orDefault read standard ((if removed then none else some value).map Data.spelled)
      = some (if removed then standard else actual) := by
  cases removed with
  | false => exact hread
  | true => rfl

end Reading

section Removing

variable (removed : List String → Bool)

theorem size?_sizeValue (size : Print.Size) (inside : List String → Bool) :
    size? ((sizeValue size).without inside).spelled = some size := by
  rw [sizeValue, Data.without, Data.spelled]
  exact word?_repr size

theorem StyleName.ofDocument?_word (style : StyleName) (inside : List String → Bool) :
    ofDocument? ((Data.string style.word).without inside).spelled = some style := by
  rw [Data.without, Data.spelled, ofDocument?, text?_ofText, Option.bind_some]
  cases style <;> rfl

theorem Config.outDir?_string (dir : String) (inside : List String → Bool) :
    outDir? ((Data.string dir).without inside).spelled = some (some dir) := by
  rw [Data.without, Data.spelled, outDir?, text?_ofText, Option.map_some]

/-- Options from which keys have been removed are read with defaults for those, and as they
    were otherwise. -/
theorem IndentOptions.ofDocument?_without (options : IndentOptions) :
    ofDocument? (options.toValue.without removed).spelled
      = some ⟨if removed ["size"] then 4 else options.size,
          if removed ["style"] then .space else options.style,
          if removed ["span"] then 1 else options.span⟩ := by
  have hkeys : ["size", "style", "span"].Nodup := by decide
  -- Each setting is looked up on its own, so each is either removed or there.
  rw [toValue, Data.without, ofDocument?_object, get?_membersWithout, get?_membersWithout,
    get?_membersWithout]
  · exact ofParts?_of_orDefault (orDefault_without (size?_sizeValue _ _) _)
      (orDefault_without (StyleName.ofDocument?_word _ _) _)
      (orDefault_without (size?_sizeValue _ _) _)
  · exact (keys_membersWithout_sublist removed _).nodup hkeys

/-- A configuration from which keys have been removed is read with defaults for those, and
    as it was otherwise. -/
theorem Config.ofDocument?_without (config : Config) :
    ofDocument? (config.toValue.without removed).spelled
      = some ⟨if removed Setting.indent.path then .standard else
            ⟨if removed Setting.size.path then 4 else config.indent.size,
              if removed Setting.style.path then .space else config.indent.style,
              if removed Setting.span.path then 1 else config.indent.span⟩,
          if removed Setting.outDir.path then none else config.outDir⟩ := by
  rcases config with ⟨indent, outDir⟩
  -- What is removed inside the part is asked of the part alone, with its key in front.
  have hindent := IndentOptions.ofDocument?_without (fun path => removed ("indent" :: path)) indent
  cases outDir with
  | none =>
      have hkeys : ["indent"].Nodup := by decide
      rw [toValue, Data.without, ofDocument?_object, get?_membersWithout, get?_membersWithout]
      · refine ofParts?_of_orDefault (orDefault_without hindent _) ?_
        -- No directory was written, so there is none whether the key is removed or not.
        change _ = some (if removed ["outDir"] then none else none)
        split <;> rfl
      · exact (keys_membersWithout_sublist removed _).nodup hkeys
  | some dir =>
      have hkeys : ["indent", "outDir"].Nodup := by decide
      rw [toValue, Data.without, ofDocument?_object, get?_membersWithout, get?_membersWithout]
      · exact ofParts?_of_orDefault (orDefault_without hindent _)
          (orDefault_without (outDir?_string dir _) _)
      · exact (keys_membersWithout_sublist removed _).nodup hkeys

end Removing

section Texts

theorem IndentOptions.readable_toValue (options : IndentOptions) (depth : Nat) :
    options.toValue.Readable (depth + 1) := by
  refine .object ?_
  rw [List.forall_mem_cons, List.forall_mem_cons, List.forall_mem_singleton]
  exact ⟨readable_word options.size depth, .string _ _, readable_word options.span depth⟩

theorem Config.readable_toValue (config : Config) (depth : Nat) :
    config.toValue.Readable (depth + 2) := by
  refine .object (List.forall_mem_cons.mpr ⟨config.indent.readable_toValue depth, ?_⟩)
  exact List.forall_mem_map.mpr fun dir _ => .string dir _

/-- What is written once keys are removed is read as what is left. -/
theorem Config.ofText?_without (config : Config) (removed : List String → Bool) :
    ofText? (config.toValue.without removed).write
      = ofDocument? (config.toValue.without removed).spelled := by
  have hreadable := Data.Readable.without config.toValue (config.readable_toValue 0) removed
  rw [ofText?, document?_of_readable hreadable]
  rfl

/-- A configuration is read back from what was written of it. -/
theorem Config.ofText?_write (config : Config) : ofText? config.write = some config := by
  -- This is the case in which no key is removed.
  have hread := config.ofText?_without fun _ => false
  rwa [Config.ofDocument?_without, without_nothing] at hread

end Texts

section Printing

/-- A style has the filler it is made with, and a span of nothing counts as one. -/
theorem parts_ofSpan (filler : String) (span : Print.Size) :
    (Print.IndentStyle.ofSpan filler span).filler = filler ∧
      (Print.IndentStyle.ofSpan filler span).span = max span 1 := by
  unfold Print.IndentStyle.ofSpan
  by_cases hzero : span = 0
  · rw [dif_pos hzero, hzero]
    exact ⟨rfl, rfl⟩
  · have hle : 1 ≤ span := by
      rw [UInt64.le_iff_toNat_le, UInt64.toNat_one]
      exact Nat.one_le_iff_ne_zero.mpr fun h => hzero (UInt64.toNat_inj.mp h)
    rw [dif_neg hzero]
    refine ⟨rfl, ?_⟩
    change span = if span ≤ 1 then 1 else span
    split
    · exact UInt64.le_antisymm ‹span ≤ 1› hle
    · rfl

/-- What a rendering is configured with. -/
theorem Config.printing_settings (config : Config) (given : Option Print.Size) :
    (config.printing given).indent.size = given.getD config.indent.size ∧
    (config.printing given).indent.style.filler
      = (match config.indent.style with
        | .space => " "
        | .tab => "\t"
        | .none => "") ∧
    (config.printing given).indent.style.span
      = (match config.indent.style with
        | .none => 1
        | _ => max config.indent.span 1) := by
  rcases config with ⟨⟨size, style, span⟩, outDir⟩
  refine ⟨rfl, ?_⟩
  cases style with
  | space => exact parts_ofSpan " " span
  | tab => exact parts_ofSpan "\t" span
  | none => exact parts_ofSpan "" 1

end Printing

/-- Configurations are read back from what was written of them. If any of the settings are
    taken out of it, those and no others are read as their defaults. What a rendering is
    configured with has the size that is given for this run, or else the one that was read;
    its filler and span depend on nothing but the style and span that were read. -/
theorem settings_default_independently (config : Config) (removed : List Setting) :
    Config.ofText? config.write = some config ∧
    ∃ result : Config,
      Config.ofText? (config.toValue.without fun path => path ∈ removed.map Setting.path).write
        = some result ∧
      result.indent.size
        = (if .indent ∈ removed ∨ .size ∈ removed then 4 else config.indent.size) ∧
      result.indent.style
        = (if .indent ∈ removed ∨ .style ∈ removed then .space else config.indent.style) ∧
      result.indent.span
        = (if .indent ∈ removed ∨ .span ∈ removed then 1 else config.indent.span) ∧
      result.outDir = (if .outDir ∈ removed then none else config.outDir) ∧
      ∀ given : Option Print.Size,
        (result.printing given).indent.size = given.getD result.indent.size ∧
        (result.printing given).indent.style.filler
          = (match result.indent.style with
            | .space => " "
            | .tab => "\t"
            | .none => "") ∧
        (result.printing given).indent.style.span
          = (match result.indent.style with
            | .none => 1
            | _ => max result.indent.span 1) := by
  have hpath : ∀ setting : Setting, setting.path ∈ removed.map Setting.path ↔ setting ∈ removed :=
    fun setting => List.mem_map_of_injective Setting.path_injective
  refine ⟨config.ofText?_write, _,
    (config.ofText?_without _).trans (Config.ofDocument?_without _ config), ?_⟩
  simp only [decide_eq_true_eq, hpath]
  -- Without the part as a whole, it does not matter which of its settings are removed.
  by_cases hwhole : Setting.indent ∈ removed
  · simp only [hwhole, if_true, true_or]
    exact ⟨rfl, rfl, rfl, trivial, Config.printing_settings _⟩
  · simp only [hwhole, if_false, false_or]
    exact ⟨trivial, trivial, trivial, trivial, Config.printing_settings _⟩

end Project

end ClassForge
