import ClassForge.Files.Path
import ClassForge.Proofs.Text.Indentation
import Mathlib.Data.List.DropRight
import Mathlib.Logic.Relation

/-!
# Components of Paths

What the operations on paths do to components. Joining and going up work on the
text of a path, while paths are compared by what the text names, so every other
argument about paths comes down to the lemmas here.

A path is cut at its separators. The first part decides what the path starts
with, and it is no component in any case where something is made of it, so all
components but the first are read off the parts one by one. `components_eq` is
that reading, and it makes joining an append. Going up takes the last part that
names something, and whatever is trivial around it.

## Theorems

* `components_eq`: The components of a path, part by part.
* `components_eq_nil_iff`: Only the empty text has no components.
* `fileName?_of_parts`: The last part of a path is its file name.
* `rawSegments_join`, `components_join`: Joining appends parts, and components.
* `components_ofSegments`: Parts that are put together keep their components.
* `parent?_cases`: Going up takes the last component, unless it is the root.
* `mem_ancestors`: Whatever is above a path is among its ancestors.
-/

namespace ClassForge

namespace Files

namespace Path

section Parts

theorem rawSegments_ne_nil (path : Path) : path.rawSegments ≠ [] := by
  rw [rawSegments, ne_eq, List.map_eq_nil_iff]
  exact List.splitOn_ne_nil _ _

theorem separator_notMem_rawSegments (path : Path) :
    ∀ segment ∈ path.rawSegments, '/' ∉ segment.toList := by
  rw [rawSegments, List.forall_mem_map]
  intro chars hchars
  rw [String.toList_ofList]
  exact Text.separator_notMem_splitOn _ _ _ hchars

/-- Two texts with a separator between them are cut into the parts of both. -/
theorem rawSegments_separated (text below : String) :
    rawSegments ⟨text ++ "/" ++ below⟩ = rawSegments ⟨text⟩ ++ rawSegments ⟨below⟩ := by
  have hchars : (text ++ "/" ++ below).toList = text.toList ++ '/' :: below.toList := by
    simp only [String.toList_append, List.append_assoc]
    rfl
  simp only [rawSegments, hchars, List.splitOn_append_cons_self, List.map_append]

/-- A text without separators is one part. -/
theorem rawSegments_of_notMem {text : String} (htext : '/' ∉ text.toList) :
    rawSegments ⟨text⟩ = [text] := by
  rw [rawSegments, List.splitOn_eq_singleton htext, List.map_singleton, String.ofList_toList]

/-- Parts that are put together are cut apart again. -/
theorem rawSegments_intercalate {segments : List String} (hne : segments ≠ [])
    (hsegments : ∀ segment ∈ segments, '/' ∉ segment.toList) :
    rawSegments ⟨"/".intercalate segments⟩ = segments :=
  Text.split_intercalate rfl hne hsegments

theorem splitOn_append {separator : Char} {ending : List Char} (hending : separator ∉ ending)
    (chars : List Char) :
    ∃ parts last, (chars ++ ending).splitOn separator = parts ++ [last ++ ending] := by
  induction chars with
  | nil => exact ⟨[], [], List.splitOn_eq_singleton hending⟩
  | cons c chars ih =>
      obtain ⟨parts, last, hparts⟩ := ih
      rw [List.cons_append, List.splitOn_cons_eq_if_modifyHead, hparts]
      by_cases hc : c = separator
      · exact ⟨[] :: parts, last, by simp [hc]⟩
      · cases parts with
        | nil => exact ⟨[], c :: last, by simp [hc]⟩
        | cons first rest => exact ⟨(c :: first) :: rest, last, by simp [hc]⟩

/-- What stands at the end of a path and has no separators is at the end of the
    last part. -/
theorem rawSegments_append {ending : String} (hending : '/' ∉ ending.toList) (text : String) :
    ∃ parts last, rawSegments ⟨text ++ ending⟩ = parts ++ [last ++ ending] := by
  obtain ⟨parts, last, hparts⟩ := splitOn_append hending text.toList
  refine ⟨parts.map String.ofList, String.ofList last, ?_⟩
  rw [rawSegments, String.toList_append, hparts, List.map_append, List.map_singleton,
    String.ofList_append, String.ofList_toList]

/-- A path is absolute exactly if its first part is empty, unless that is all. -/
theorem isAbsolute_iff (path : Path) :
    path.isAbsolute = true ↔ path.text ≠ "" ∧ path.rawSegments.head? = some "" := by
  unfold isAbsolute rawSegments
  rw [decide_eq_true_eq, List.head?_map]
  rcases hchars : path.text.toList with _ | ⟨c, chars⟩
  · have htext : path.text = "" := String.toList_eq_nil_iff.mp hchars
    simp [htext]
  · have htext : path.text ≠ "" := by
      intro h
      rw [h] at hchars
      cases hchars
    rw [List.splitOn_cons_eq_if_modifyHead]
    by_cases hc : c = '/'
    · simp [hc, htext]
    · -- The first part starts with the character, so it is not empty.
      rcases hparts : chars.splitOn '/' with _ | ⟨first, rest⟩
      · exact absurd hparts (List.splitOn_ne_nil _ _)
      simp [hc]

theorem isAbsolute_of_notMem {text : String} (htext : '/' ∉ text.toList) :
    isAbsolute ⟨text⟩ = false := by
  unfold isAbsolute
  rw [decide_eq_false_iff_not]
  exact fun h => htext (List.mem_of_head? h)

theorem head_eq (path : Path) :
    path.head = if path.text ≠ "" ∧ path.rawSegments.head? = some "" then .root
      else if path.rawSegments.head? = some "." then .current else .none := by
  unfold head
  simp only [isAbsolute_iff]

/-- What a path starts with is no component among its parts. -/
theorem components_eq (path : Path) :
    path.components = headComponent path.head ++ path.rawSegments.filterMap component? := by
  have hsegments : path.segments.filterMap component? = path.rawSegments.filterMap component? := by
    rcases hparts : path.rawSegments with _ | ⟨first, rest⟩
    · exact absurd hparts path.rawSegments_ne_nil
    have hhead := path.head_eq
    rw [hparts, List.head?_cons] at hhead
    unfold segments
    -- The part that is dropped is empty or a dot.
    split
    · rw [hparts]
    · have htrivial : component? first = none := by
        by_cases hempty : first = ""
        · simp [component?, isTrivial, hempty]
        · by_cases hdot : first = "."
          · simp [component?, isTrivial, hdot]
          · simp_all
      rw [hparts, List.drop_one, List.tail_cons, List.filterMap_cons, htrivial]
  rw [components, hsegments]

/-- Only the empty text names nothing. -/
theorem components_eq_nil_iff (path : Path) : path.components = [] ↔ path.text = "" := by
  constructor
  · intro hnil
    rw [components_eq, List.append_eq_nil_iff, List.filterMap_eq_nil_iff] at hnil
    rcases hparts : path.rawSegments with _ | ⟨first, rest⟩
    · exact absurd hparts path.rawSegments_ne_nil
    have hfirst : component? first = none := hnil.2 first (by simp [hparts])
    have hhead := hnil.1
    rw [head_eq, hparts] at hhead
    -- The first part would be the start of the path if the text were not empty.
    by_contra htext
    unfold component? isTrivial at hfirst
    by_cases hempty : first = ""
    · simp [hempty, htext, headComponent] at hhead
    · by_cases hdot : first = "."
      · simp [hdot, headComponent] at hhead
      · by_cases hparent : first = ".." <;> simp [hempty, hdot, hparent] at hfirst
  · intro htext
    obtain ⟨text⟩ := path
    cases htext
    rfl

/-- The last part of a path is its file name, unless it is trivial or a pair of
    dots. -/
theorem fileName?_of_parts {path : Path} {parts : List String} {last : String}
    (hparts : path.rawSegments = parts ++ [last]) (htrivial : isTrivial last = false) :
    path.fileName? = if last = ".." then none else some last := by
  have hcomponent : component? last = some (if last = ".." then .parent else .name last) := by
    unfold component?
    rw [if_neg (by rw [htrivial]; exact Bool.false_ne_true), apply_ite some]
  have hlast : path.components.getLast? = component? last := by
    rw [components_eq, hparts, List.filterMap_append, ← List.append_assoc, List.filterMap_cons,
      hcomponent]
    exact List.getLast?_concat ..
  unfold fileName?
  rw [hlast, hcomponent]
  by_cases hdots : last = ".."
  · rw [if_pos hdots, if_pos hdots]
  · rw [if_neg hdots, if_neg hdots]

end Parts

section Joining

theorem join_of_empty {path : Path} (hpath : path.text = "") (below : Path) :
    path.join below = below := by
  unfold join
  split
  · rfl
  · rw [if_pos (Or.inl hpath), hpath, String.empty_append]

/-- What is joined to a path stands at its end. -/
theorem exists_join_text (path below : Path) :
    ∃ front, (path.join below).text = front ++ below.text := by
  unfold join
  split
  · exact ⟨"", String.empty_append.symm⟩
  split
  · exact ⟨_, rfl⟩
  · exact ⟨_, rfl⟩

/-- Paths with the same start are told apart by the parts behind it. -/
theorem components_of_parts {path other : Path} {parts rest gone : List String}
    (hparts : parts ≠ []) (hpath : path.rawSegments = parts ++ gone)
    (hother : other.rawSegments = parts ++ rest) (hgone : gone.filterMap component? = [])
    (htext : path.text ≠ "") (hothertext : other.text ≠ "") :
    other.components = path.components ++ rest.filterMap component? := by
  have hfirst : other.rawSegments.head? = path.rawSegments.head? := by
    rw [hpath, hother, List.head?_append_of_ne_nil _ hparts, List.head?_append_of_ne_nil _ hparts]
  have hhead : other.head = path.head := by
    simp only [head_eq, hfirst, htext, hothertext, ne_eq, not_false_eq_true, true_and]
  rw [components_eq, components_eq path, hhead, hpath, hother, List.filterMap_append,
    List.filterMap_append, hgone, List.append_nil, List.append_assoc]

/-- What joining does to the parts of a path. A separator at the end of the path
    leaves an empty part there, which gives way to what is below. -/
theorem rawSegments_join {path below : Path} (hpath : path.text ≠ "")
    (hbelow : below.isAbsolute = false) :
    ∃ parts gone, parts ≠ [] ∧ path.rawSegments = parts ++ gone ∧ (gone = [] ∨ gone = [""]) ∧
      (path.join below).rawSegments = parts ++ below.rawSegments ∧
      (path.join below).text ≠ "" := by
  unfold join
  rw [if_neg (by rw [hbelow]; exact Bool.false_ne_true)]
  -- A separator at the end of the path is used, and otherwise one is put in between.
  by_cases hlast : path.text.toList.getLast? = some '/'
  · obtain ⟨chars, hchars⟩ := List.getLast?_eq_some_iff.mp hlast
    have htext : path.text = String.ofList chars ++ "/" := by
      apply String.ext
      rw [hchars, String.toList_append, String.toList_ofList]
      rfl
    have hparts : path.rawSegments = rawSegments ⟨String.ofList chars⟩ ++ [""] := by
      have hsplit := rawSegments_separated (String.ofList chars) ""
      rw [String.append_empty, ← htext] at hsplit
      exact hsplit
    have hsplit := rawSegments_separated (String.ofList chars) below.text
    rw [← htext] at hsplit
    rw [if_pos (Or.inr hlast)]
    refine ⟨_, _, rawSegments_ne_nil _, hparts, .inr rfl, hsplit, ?_⟩
    intro hempty
    exact hpath (String.append_eq_empty_iff.mp hempty).1
  · rw [if_neg (by simp only [hpath, hlast, or_self, not_false_eq_true])]
    refine ⟨_, [], path.rawSegments_ne_nil, (List.append_nil _).symm, .inl rfl,
      rawSegments_separated path.text below.text, ?_⟩
    intro hempty
    exact hpath (String.append_eq_empty_iff.mp (String.append_eq_empty_iff.mp hempty).1).1

/-- What is below an absolute path is absolute, and nothing else is. -/
theorem isAbsolute_join {path below : Path} (hpath : path.text ≠ "")
    (hbelow : below.isAbsolute = false) : (path.join below).isAbsolute = path.isAbsolute := by
  obtain ⟨parts, gone, hparts, hraw, -, hjoin, htext⟩ := rawSegments_join hpath hbelow
  have hfirst : (path.join below).rawSegments.head? = path.rawSegments.head? := by
    rw [hraw, hjoin, List.head?_append_of_ne_nil _ hparts, List.head?_append_of_ne_nil _ hparts]
  rw [Bool.eq_iff_iff, isAbsolute_iff, isAbsolute_iff, hfirst]
  simp only [hpath, htext, ne_eq, not_false_eq_true, true_and]

/-- Joining appends components. A dot that a path starts with is none any more
    once something stands in front of it. -/
theorem components_join {path below : Path} (hpath : path.text ≠ "")
    (hbelow : below.isAbsolute = false) :
    (path.join below).components = path.components ++ below.rawSegments.filterMap component? := by
  obtain ⟨parts, gone, hparts, hraw, hgone, hjoin, htext⟩ := rawSegments_join hpath hbelow
  have hnothing : gone.filterMap component? = [] := by
    rcases hgone with rfl | rfl
    · rfl
    · rfl
  exact components_of_parts hparts hraw hjoin hnothing hpath htext

/-- What is below a path by a single name has that name as its last component. -/
theorem components_join_name {path below : Path} {text : String}
    (hbelow : below.components = [.name text]) :
    (path.join below).components = path.components ++ [.name text] := by
  have hrelative : below.isAbsolute = false := by
    by_contra habsolute
    rw [Bool.not_eq_false, isAbsolute_iff] at habsolute
    rw [components_eq, head_eq, if_pos habsolute] at hbelow
    cases hbelow
  by_cases hpath : path.text = ""
  · rw [join_of_empty hpath, hbelow, (components_eq_nil_iff path).mpr hpath, List.nil_append]
  · rw [components_join hpath hrelative]
    rw [components_eq] at hbelow
    cases hhead : below.head with
    | root =>
        rw [hhead] at hbelow
        cases hbelow
    | current =>
        rw [hhead] at hbelow
        cases hbelow
    | none =>
        rw [hhead] at hbelow
        rw [← hbelow]
        rfl

/-- A text that is neither trivial nor a pair of dots and has no separators is a
    name. -/
theorem components_of_name {text : String} (hsegment : '/' ∉ text.toList)
    (htrivial : isTrivial text = false) (hparent : text ≠ "..") :
    components ⟨text⟩ = [.name text] := by
  have hparts : rawSegments ⟨text⟩ = [text] := rawSegments_of_notMem hsegment
  unfold isTrivial at htrivial
  rw [components_eq, head_eq, hparts]
  simp_all [component?, isTrivial, headComponent]

end Joining

section GoingUp

theorem trimEnd_concat (segments : List String) (segment : String) :
    trimEnd (segments ++ [segment])
      = if isTrivial segment then trimEnd segments else segments ++ [segment] :=
  List.rdropWhile_concat _ _ _

/-- Trivial parts at the end are no components. -/
theorem filterMap_trimEnd (segments : List String) :
    (trimEnd segments).filterMap component? = segments.filterMap component? := by
  induction segments using List.reverseRecOn with
  | nil => rfl
  | append_singleton segments segment ih =>
      rw [trimEnd_concat]
      by_cases htrivial : isTrivial segment = true
      · rw [if_pos htrivial, ih, List.filterMap_append]
        simp [component?, htrivial]
      · rw [if_neg htrivial]

theorem isStart_trimEnd (segments : List String) : trimEnd segments <+: segments :=
  List.rdropWhile_prefix _ _

/-- Parts that are put together behind a start keep their components. -/
theorem components_ofSegments {head : Head} {segments : List String}
    (hsegments : ∀ segment ∈ segments, '/' ∉ segment.toList)
    (hfirst : head = .none → ∀ first ∈ segments.head?, isTrivial first = false) :
    (ofSegments head segments).components
      = headComponent head ++ segments.filterMap component? := by
  have hparts : (rawSegments ⟨"/".intercalate segments⟩).filterMap component?
      = segments.filterMap component? := by
    by_cases hne : segments = []
    · subst hne
      rfl
    · rw [rawSegments_intercalate hne hsegments]
  cases head with
  | root =>
      -- The root is an empty part in front of the others.
      have hroot : rawSegments ⟨"/" ++ "/".intercalate segments⟩
          = "" :: rawSegments ⟨"/".intercalate segments⟩ := by
        have hsplit := rawSegments_separated "" ("/".intercalate segments)
        rw [String.empty_append] at hsplit
        exact hsplit
      have htext : "/" ++ "/".intercalate segments ≠ "" := by
        intro hempty
        exact absurd (String.append_eq_empty_iff.mp hempty).1 (by decide)
      rw [ofSegments, components_eq, head_eq, hroot, List.head?_cons, if_pos ⟨htext, rfl⟩,
        List.filterMap_cons, hparts]
      rfl
  | current =>
      have hdots : ∀ segment ∈ "." :: segments, '/' ∉ segment.toList :=
        List.forall_mem_cons.mpr ⟨by decide, hsegments⟩
      rw [ofSegments, components_eq, head_eq,
        rawSegments_intercalate (List.cons_ne_nil _ _) hdots, List.head?_cons,
        if_neg fun h => absurd h.2 (by decide), if_pos rfl, List.filterMap_cons]
      rfl
  | none =>
      rw [ofSegments, components_eq, hparts, head_eq]
      by_cases hne : segments = []
      · subst hne
        rfl
      · rw [rawSegments_intercalate hne hsegments]
        rcases segments with _ | ⟨first, rest⟩
        · exact absurd rfl hne
        have htrivial := hfirst rfl first rfl
        unfold isTrivial at htrivial
        simp_all

/-- The first part of a path that starts with nothing in particular is a
    component. -/
theorem not_trivial_of_head {path : Path} (hhead : path.head = .none) (htext : path.text ≠ "") :
    ∀ first ∈ path.rawSegments.head?, isTrivial first = false := by
  intro first hfirst
  rw [head_eq] at hhead
  unfold isTrivial
  by_cases hempty : first = ""
  · simp_all
  · by_cases hdot : first = "."
    · simp_all
    · simp [hempty, hdot]

theorem segments_subset (path : Path) : ∀ segment ∈ path.segments, segment ∈ path.rawSegments := by
  intro segment hsegment
  unfold segments at hsegment
  split at hsegment
  · exact hsegment
  · exact List.mem_of_mem_drop hsegment

/-- What is left of the parts of a path on the way up is fit to be put together. -/
theorem components_of_start {path : Path} {segments : List String}
    (hstart : segments <+: path.segments) (htext : path.text ≠ "") :
    (ofSegments path.head segments).components
      = headComponent path.head ++ segments.filterMap component? := by
  refine components_ofSegments (fun segment hsegment => ?_) fun hhead first hfirst => ?_
  · exact path.separator_notMem_rawSegments _ (path.segments_subset _ (hstart.subset hsegment))
  · -- Nothing has been dropped in front, so the first part is that of the path.
    have hparts : path.segments = path.rawSegments := by rw [Path.segments, hhead]
    rw [hparts] at hstart
    obtain ⟨rest, hrest⟩ := hstart
    refine not_trivial_of_head hhead htext first ?_
    rw [← hrest, List.head?_append, Option.mem_def.mp hfirst]
    rfl

/-- Going up takes the last component away, unless that is the root or there is
    none. -/
theorem parent?_cases (path : Path) :
    (path.parent? = none ∧ (path.components = [] ∨ path.components = [.root])) ∨
      ∃ parent last, path.parent? = some parent ∧
        path.components = parent.components ++ [last] := by
  have hcomponents : path.components
      = headComponent path.head ++ (trimEnd path.segments).filterMap component? := by
    rw [filterMap_trimEnd, components]
  unfold parent?
  rcases htrim : trimEnd path.segments with _ | ⟨first, rest⟩
  · -- Nothing but the start is left.
    rw [htrim, List.filterMap_nil, List.append_nil] at hcomponents
    cases hhead : path.head with
    | root =>
        rw [hhead] at hcomponents
        exact .inl ⟨rfl, .inr hcomponents⟩
    | current =>
        rw [hhead] at hcomponents
        exact .inr ⟨⟨""⟩, .current, rfl, hcomponents⟩
    | none =>
        rw [hhead] at hcomponents
        exact .inl ⟨rfl, .inl hcomponents⟩
  · have hne : trimEnd path.segments ≠ [] := by
      rw [htrim]
      exact List.cons_ne_nil _ _
    -- The last part is a component, since trivial ones have been taken away.
    have hlast : isTrivial ((trimEnd path.segments).getLast hne) = false :=
      Bool.eq_false_iff.mpr (List.rdropWhile_last_not _ _ hne)
    obtain ⟨last, hcomponent⟩ : ∃ last,
        component? ((trimEnd path.segments).getLast hne) = some last := by
      unfold component?
      rw [if_neg (by rw [hlast]; exact Bool.false_ne_true)]
      split
      · exact ⟨_, rfl⟩
      · exact ⟨_, rfl⟩
    have hsplit : path.components = headComponent path.head
        ++ (trimEnd path.segments).dropLast.filterMap component? ++ [last] := by
      rw [hcomponents, ← List.dropLast_concat_getLast hne, List.dropLast_concat,
        List.filterMap_append, List.append_assoc]
      simp only [List.filterMap_cons, hcomponent, List.filterMap_nil]
    have htext : path.text ≠ "" := by
      rw [ne_eq, ← components_eq_nil_iff, hsplit]
      exact List.concat_ne_nil _ _
    have hdropped : (trimEnd path.segments).dropLast <+: trimEnd path.segments :=
      List.dropLast_prefix _
    have hstart : trimEnd (trimEnd path.segments).dropLast <+: path.segments :=
      (isStart_trimEnd _).trans (hdropped.trans (isStart_trimEnd _))
    refine .inr ⟨_, last, rfl, ?_⟩
    rw [← htrim, components_of_start hstart htext, filterMap_trimEnd, hsplit]

/-- Whatever is above a path is among its ancestors. -/
theorem mem_ancestors {path above : Path}
    (habove : Relation.ReflTransGen (fun below parent => below.parent? = some parent) path above) :
    above ∈ path.ancestors := by
  -- Every step up takes a component away, so the count lasts.
  have hwithin : ∀ count, path.components.length ≤ count → above ∈ ancestorsWithin count path := by
    induction habove using Relation.ReflTransGen.head_induction_on with
    | refl =>
        intro count _
        cases count with
        | zero => exact List.mem_singleton_self _
        | succ count =>
            rw [ancestorsWithin]
            split
            · exact List.mem_singleton_self _
            · exact List.mem_cons_self
    | head hparent _ ih =>
        intro count hcount
        rename_i below parent _
        rcases below.parent?_cases with ⟨hnone, -⟩ | ⟨found, last, hfound, hcomponents⟩
        · rw [hnone] at hparent
          cases hparent
        · rw [hfound, Option.some.injEq] at hparent
          subst hparent
          rw [hcomponents, List.length_append, List.length_singleton] at hcount
          cases count with
          | zero => omega
          | succ count =>
              rw [ancestorsWithin, hfound]
              exact List.mem_cons_of_mem _ (ih count (by omega))
  exact hwithin _ (Nat.le_refl _)

end GoingUp

end Path

end Files

end ClassForge
