import Scriptorium.Proofs.Link.Segments
import Scriptorium.Proofs.Publication
/-! # Following relative links

A relative link is followed segment by segment (`Link.resolve`): a dot stays, two dots
lead to the directory above, a name leads below. As long as the segments stay below a
base, following them changes the names behind the base only (`Link.foldl_follow_below`),
and publishing the names before or after each segment makes no difference
(`Link.walk_publishSegment`). So a link to a document and the link to its page lead to
the same place (`Link.publicPath_resolve`).
-/

namespace Scriptorium.Link

open Scriptorium.Path (Component IsName Below)

/-- The place that one segment leads to. -/
def follow (place : List Component) (segment : Text) : List Component :=
  match Component.ofSegment? segment with
  | none => place
  | some .parent => place.dropLast
  | some component => place ++ [component]

/-- The place that a link leads to from a directory. -/
def resolve (directory : List Component) (link : Text) : List Component :=
  (link.splitOn '/').foldl follow directory

/-- The names that one segment leads to. -/
def walk (names : List Text) (segment : Text) : List Text :=
  if segment = ['.'] then names
  else if segment = ['.', '.'] then names.dropLast
  else names ++ [segment]

/-- Whether segments never climb more directories than there are above them. -/
def staysBelow (depth : Nat) : List Text → Bool
  | [] => true
  | segment :: rest =>
    if segment = ['.'] then staysBelow depth rest
    else if segment = ['.', '.'] then depth != 0 && staysBelow (depth - 1) rest
    else staysBelow (depth + 1) rest

/-- A segment that stays, climbs or has a name. -/
def IsStep (segment : Text) : Prop :=
  segment = ['.'] ∨ segment = ['.', '.'] ∨ IsName segment

/-- A relative link to the document `stem.md`, by way of the given segments. -/
structure LeadsTo (link : Text) (segments : List Text) (stem : Text) : Prop where
  split : link.splitOn '/' = segments ++ [stem ++ ".md".toList]
  no_anchor : '#' ∉ link
  step : ∀ segment ∈ segments,
    segment = ['.'] ∨ segment = ['.', '.'] ∨ Name.publish segment ≠ []
  named : Name.publish stem ≠ []

variable {base : List Component} {names segments : List Text} {segment link stem : Text}

/-! ## Following segments below a base -/

private theorem follow_name (isName : IsName segment) (place : List Component) :
    follow place segment = place ++ [.normal segment] := by
  rw [follow, isName.ofSegment?]

private theorem walk_name (isName : IsName segment) (names : List Text) :
    walk names segment = names ++ [segment] := by
  rw [walk, if_neg isName.not_current, if_neg isName.not_parent]

/-- Steps that stay below a directory lead to names below it. -/
theorem foldl_follow_below (step : ∀ segment ∈ segments, IsStep segment)
    (inside : staysBelow names.length segments = true) :
    segments.foldl follow (base ++ names.map .normal) =
      base ++ (segments.foldl walk names).map .normal := by
  induction segments generalizing names with
  | nil => rfl
  | cons segment segments ih =>
    have later : ∀ other ∈ segments, IsStep other :=
      fun other member => step other (List.mem_cons_of_mem segment member)
    rw [List.foldl_cons, List.foldl_cons]
    rcases step segment List.mem_cons_self with rfl | rfl | isName
    · exact ih later inside
    · obtain ⟨deep, inside⟩ := (Bool.and_eq_true _ _).mp inside
      have nonempty : names.map Component.normal ≠ [] := by
        simpa [List.length_eq_zero_iff] using deep
      have climb : follow (base ++ names.map .normal) ['.', '.'] =
          base ++ names.dropLast.map .normal := by
        rw [List.map_dropLast, ← List.dropLast_append_of_ne_nil nonempty]
        rfl
      rw [climb]
      exact ih later (by rwa [List.length_dropLast])
    · rw [follow_name isName, walk_name isName, List.append_assoc,
        show names.map Component.normal ++ [.normal segment] =
          (names ++ [segment]).map .normal by simp]
      apply ih later
      rw [staysBelow, if_neg isName.not_current, if_neg isName.not_parent] at inside
      rwa [List.length_append]

/-! ## Publishing segments -/

private theorem not_isNameless (isName : IsName segment) : isNameless segment = false := by
  simp [isNameless, isName.nonempty, isName.not_current, isName.not_parent]

/-- The last segment of a path is published as the name of a page, all others as folders. -/
theorem publishSegments_concat (isName : IsName stem) (segments : List Text) :
    publishSegments (segments ++ [stem]) =
      segments.map publishSegment ++ [Name.publish stem ++ ".html".toList] := by
  rw [publishSegments_append, not_isNameless isName]
  rfl

/-- A segment with a publishable name is published under that name. -/
theorem publishSegment_name (publishable : Name.Publishable segment) :
    publishSegment segment = Name.publish segment := by
  rw [publishSegment, not_isNameless publishable.isName]
  rfl

/-- A published segment is a step where the segment is one. -/
theorem isStep_publishSegment (whole : '/' ∉ segment)
    (step : segment = ['.'] ∨ segment = ['.', '.'] ∨ Name.publish segment ≠ []) :
    IsStep (publishSegment segment) := by
  rcases step with rfl | rfl | published
  · exact .inl rfl
  · exact .inr (.inl rfl)
  · rw [publishSegment_name ⟨whole, published⟩]
    exact .inr (.inr (Name.Publishable.isName_publish ⟨whole, published⟩))

/-- Publishing the names and following a published segment is following the segment and
publishing the names. -/
theorem walk_publishSegment (whole : '/' ∉ segment)
    (step : segment = ['.'] ∨ segment = ['.', '.'] ∨ Name.publish segment ≠ []) :
    walk (names.map Name.publish) (publishSegment segment) =
      (walk names segment).map Name.publish := by
  rcases step with rfl | rfl | published
  · rfl
  · exact (List.map_dropLast ..).symm
  · have publishable : Name.Publishable segment := ⟨whole, published⟩
    rw [publishSegment_name publishable, walk_name publishable.isName,
      walk_name publishable.isName_publish, List.map_append, List.map_singleton]

/-- What the segments of a link may be, one by one: whole, and a dot, two dots or a name
with a published form. -/
abbrev Published (segments : List Text) : Prop :=
  ∀ segment ∈ segments, '/' ∉ segment ∧
    (segment = ['.'] ∨ segment = ['.', '.'] ∨ Name.publish segment ≠ [])

private theorem foldl_walk_publishSegment (clear : Published segments) :
    (segments.map publishSegment).foldl walk (names.map Name.publish) =
      (segments.foldl walk names).map Name.publish := by
  induction segments generalizing names with
  | nil => rfl
  | cons segment segments ih =>
    obtain ⟨whole, step⟩ := clear segment List.mem_cons_self
    rw [List.map_cons, List.foldl_cons, List.foldl_cons, walk_publishSegment whole step]
    exact ih fun other member => clear other (List.mem_cons_of_mem segment member)

/-- Publishing the segments of a path does not change how far they climb. -/
theorem staysBelow_publishSegment (clear : Published segments) (depth : Nat) :
    staysBelow depth (segments.map publishSegment) = staysBelow depth segments := by
  induction segments generalizing depth with
  | nil => rfl
  | cons segment segments ih =>
    have later := ih fun other member => clear other (List.mem_cons_of_mem segment member)
    obtain ⟨whole, step⟩ := clear segment List.mem_cons_self
    rw [List.map_cons]
    rcases step with rfl | rfl | published
    · exact later depth
    · change (depth != 0 && staysBelow (depth - 1) _) = (depth != 0 && staysBelow (depth - 1) _)
      rw [later]
    · have publishable : Name.Publishable segment := ⟨whole, published⟩
      have isName := publishable.isName
      have isNamed := publishable.isName_publish
      rw [publishSegment_name publishable, staysBelow, staysBelow, if_neg isName.not_current,
        if_neg isName.not_parent, if_neg isNamed.not_current, if_neg isNamed.not_parent, later]

/-! ## Links to documents -/

namespace LeadsTo

variable (leads : LeadsTo link segments stem)
include leads

private theorem whole_split : ∀ segment ∈ segments ++ [stem ++ ".md".toList], '/' ∉ segment :=
  fun _ member => Text.not_mem_of_mem_splitOn (s := link) (leads.split ▸ member)

/-- No segment of the link holds a slash. -/
theorem whole : ∀ segment ∈ segments ++ [stem], '/' ∉ segment := by
  intro segment member
  rcases List.mem_append.mp member with early | last
  · exact leads.whole_split segment (List.mem_append_left _ early)
  · have file := leads.whole_split _ (List.mem_append_right segments List.mem_cons_self)
    rw [List.mem_singleton.mp last]
    exact fun held => file (List.mem_append_left _ held)

/-- The segments of the link are published. -/
theorem published : Published segments :=
  fun segment member => ⟨leads.whole segment (List.mem_append_left _ member),
    leads.step segment member⟩

/-- The document of the link has a publishable name. -/
theorem publishable : Name.Publishable stem :=
  ⟨leads.whole stem (List.mem_append_right _ List.mem_cons_self), leads.named⟩

private theorem isStep : ∀ segment ∈ segments, IsStep segment := by
  intro segment member
  obtain ⟨whole, step⟩ := leads.published segment member
  exact step.imp_right (Or.imp_right fun named => Name.Publishable.isName ⟨whole, named⟩)

private theorem isName_file : IsName (stem ++ ".md".toList) := by
  have file := leads.whole_split _ (List.mem_append_right segments List.mem_cons_self)
  have long : 3 < (stem ++ ".md".toList).length := by
    have := List.length_pos_iff.mpr leads.publishable.isName.nonempty
    rw [List.length_append, show ".md".toList.length = 3 from rfl]
    omega
  refine ⟨fun same => ?_, fun same => ?_, fun same => ?_, file⟩ <;>
    exact absurd (same ▸ long) (by decide)

/-- The link to the page of a document, segment by segment. -/
theorem splitOn_publish : (publish link).splitOn '/' =
    segments.map publishSegment ++ [Name.publish stem ++ ".html".toList] := by
  have joined : link = Text.join ['/'] (segments ++ [stem]) ++ ".md".toList := by
    rw [← Text.join_concat_append, ← leads.split, Text.splitOn_eq]
    exact (List.intercalate_splitOn '/').symm
  have anchorless : splitAnchor link = (link, none) := by
    rw [splitAnchor, Text.cut?_of_not_mem leads.no_anchor]
  have cut : (Text.join ['/'] (segments ++ [stem])).splitOn '/' = segments ++ [stem] :=
    Text.splitOn_join (by simp) leads.whole
  have page : publish link = Text.join ['/']
      (segments.map publishSegment ++ [Name.publish stem ++ ".html".toList]) := by
    rw [publish, anchorless]
    simp only
    rw [joined, Text.dropEnd?_append]
    simp only [cut, publishSegments_concat leads.publishable.isName]
  rw [page]
  apply Text.splitOn_join (by simp)
  intro segment member
  rcases List.mem_append.mp member with early | last
  · obtain ⟨source, listed, rfl⟩ := List.mem_map.mp early
    obtain ⟨whole, step⟩ := leads.published source listed
    rcases isStep_publishSegment whole step with same | same | named
    · exact same ▸ by decide
    · exact same ▸ by decide
    · exact named.whole
  · rw [List.mem_singleton.mp last, ← markdownStem_append stem]
    exact (isName_pageName leads.isName_file.whole).whole

/-- From a directory below a base, the link leads to the document below the base. -/
theorem resolve_eq (inside : staysBelow names.length segments = true) :
    resolve (base ++ names.map .normal) link =
      base ++ (segments.foldl walk names ++ [stem ++ ".md".toList]).map .normal := by
  rw [resolve, leads.split, List.foldl_append, foldl_follow_below leads.isStep inside,
    List.foldl_cons, List.foldl_nil, follow_name leads.isName_file, List.append_assoc,
    List.map_append, List.map_singleton]

/-- From a published directory, the published link leads to the page below the base. -/
theorem resolve_publish (inside : staysBelow names.length segments = true) :
    resolve (base ++ (names.map Name.publish).map .normal) (publish link) =
      base ++ ((segments.foldl walk names).map Name.publish ++
        [Name.publish stem ++ ".html".toList]).map .normal := by
  have step : ∀ segment ∈ segments.map publishSegment, IsStep segment := by
    intro segment member
    obtain ⟨source, listed, rfl⟩ := List.mem_map.mp member
    exact isStep_publishSegment (leads.published source listed).1 (leads.published source listed).2
  have page : IsName (Name.publish stem ++ ".html".toList) := by
    have named := isName_pageName leads.isName_file.whole
    rwa [pageName, markdownStem_append] at named
  have depth : staysBelow (names.map Name.publish).length (segments.map publishSegment) = true := by
    rwa [List.length_map, staysBelow_publishSegment leads.published]
  rw [resolve, leads.splitOn_publish, List.foldl_append, foldl_follow_below step depth,
    foldl_walk_publishSegment leads.published, List.foldl_cons, List.foldl_nil,
    follow_name page, List.append_assoc, List.map_append, List.map_singleton]

/-- The directories that the link leads through have published forms. -/
theorem publishable_walk (publishable : ∀ name ∈ names, Name.Publishable name) :
    ∀ name ∈ segments.foldl walk names, Name.Publishable name := by
  have clear := leads.published
  clear leads
  induction segments generalizing names with
  | nil => exact publishable
  | cons segment segments ih =>
    rw [List.foldl_cons]
    refine ih (fun name member => ?_) fun other member =>
      clear other (List.mem_cons_of_mem segment member)
    obtain ⟨whole, rfl | rfl | published⟩ := clear segment List.mem_cons_self
    · exact publishable name member
    · exact publishable name ((List.dropLast_sublist names).subset member)
    · have new : Name.Publishable segment := ⟨whole, published⟩
      rw [walk_name new.isName] at member
      rcases List.mem_append.mp member with early | last
      · exact publishable name early
      · exact List.mem_singleton.mp last ▸ new

end LeadsTo

/-- **Relative links commute with publication.** A relative link to a document leads
from the directory of a document to a source document, and the published link leads from
the directory of the page of the one to the page of the other. -/
theorem publicPath_resolve (config : Config) {document : Path} {directory : List Text}
    {file : Text} (place : Below document config.sourceDir (directory ++ [file]))
    (named : ∀ name ∈ directory, Name.publish name ≠ []) (leads : LeadsTo link segments stem)
    (inside : staysBelow directory.length segments = true) :
    (∃ target : Path, target.components = resolve document.components.dropLast link) ∧
      ∀ target : Path, target.components = resolve document.components.dropLast link →
        (config.publicPath target).components =
          resolve (config.publicPath document).components.dropLast (publish link) := by
  have above : document.components.dropLast =
      config.sourceDir.components ++ directory.map .normal := by
    rw [place, List.map_append, ← List.append_assoc, List.map_singleton, List.dropLast_concat]
  have abovePage : (config.publicPath document).components.dropLast =
      config.publicDir.components ++ (directory.map Name.publish).map .normal := by
    rw [config.components_publicPath place named, List.map_append, ← List.append_assoc,
      List.map_singleton, List.dropLast_concat]
  rw [above, abovePage, leads.resolve_eq inside, leads.resolve_publish inside]
  have directories := leads.publishable_walk fun name member =>
    ⟨(place.isName name (List.mem_append_left [file] member)).whole, named name member⟩
  refine ⟨⟨config.sourceDir.join (segments.foldl walk directory ++ [stem ++ ".md".toList]), ?_⟩,
    fun target reached => ?_⟩
  · apply Path.components_join config.sourceDir
    intro name member
    rcases List.mem_append.mp member with early | last
    · exact (directories name early).isName
    · exact List.mem_singleton.mp last ▸ leads.isName_file
  · rw [config.components_publicPath reached fun name member => (directories name member).published,
      pageName, markdownStem_append]

/-- A link out of a numbered collection, by way of a dot, into one with an ampersand. -/
theorem publicPath_resolve_collections :
    (∃ target : Path, target.components =
      resolve (Path.mk "library/01 - Books/.notes/Truth.md".toList).components.dropLast
        "../../02 - Rose & Thorn/./On v1.2.md".toList) ∧
      ∀ target : Path, target.components =
          resolve (Path.mk "library/01 - Books/.notes/Truth.md".toList).components.dropLast
            "../../02 - Rose & Thorn/./On v1.2.md".toList →
        (Config.standard.publicPath target).components =
          resolve (Config.standard.publicPath
              (Path.mk "library/01 - Books/.notes/Truth.md".toList)).components.dropLast
            (publish "../../02 - Rose & Thorn/./On v1.2.md".toList) :=
  have place : Below (Path.mk "library/01 - Books/.notes/Truth.md".toList)
      Config.standard.sourceDir
        (["01 - Books".toList, ".notes".toList] ++ ["Truth.md".toList]) := by
    decide
  have leads : LeadsTo "../../02 - Rose & Thorn/./On v1.2.md".toList
      ["..".toList, "..".toList, "02 - Rose & Thorn".toList, ".".toList] "On v1.2".toList :=
    ⟨by decide +kernel, by decide +kernel, by decide +kernel, by decide +kernel⟩
  publicPath_resolve Config.standard place (by decide +kernel) leads (by decide +kernel)

end Scriptorium.Link
