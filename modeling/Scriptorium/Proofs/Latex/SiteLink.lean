import Scriptorium.Proofs.AnchorForm
import Scriptorium.Proofs.Latex.DocumentLink
import Scriptorium.Proofs.Link.Relative
/-! # Relative links of a paper

A relative link to a document climbs by dots and goes down by names (`Latex.RelativeLink`).
Which dots stand in front settles the command that it is written with and which segments of
the page's path are kept (`Latex.route`, `Latex.RelativeLink.pageTarget_steps`). The library's
own command keeps dots when a single name follows two steps up, or when other dots follow the
first one. The path of any other link stays on the site (`Latex.staysOnSite_iff`), an anchor
that looks like an address apart.
-/

namespace Scriptorium.Latex

open Link (publishSegment pagePath)

variable {config : Config} {text file : Text}

/-! ## What a command leads to -/

/-- A link of a paper leads to a file by a path of the site that holds no dots. -/
def StaysOnSite (config : Config) (text file link : Text) : Prop :=
  ∃ name path, link = linkTo text name (name.site config ++ '/' :: path) ∧
    (∀ segment ∈ Text.splitOn '/' path, isDots segment = false) ∧ file <:+ path

private theorem staysOnSite_linkTo_iff {name : LinkName} {path : Text} :
    StaysOnSite config text file (linkTo text name (name.site config ++ '/' :: path)) ↔
      (∀ segment ∈ Text.splitOn '/' path, isDots segment = false) ∧ file <:+ path := by
  constructor
  · rintro ⟨other, path', same, clear, ends⟩
    obtain ⟨rfl, address⟩ := eq_of_linkTo_eq same
    obtain rfl : path = path' := (List.cons.inj (List.append_cancel_left address)).2
    exact ⟨clear, ends⟩
  · rintro ⟨clear, ends⟩
    exact ⟨name, path, rfl, clear, ends⟩

/-! ## Relative links to documents -/

/-- A relative link to a document: segments of dots, then folders and the name of the document,
and perhaps an anchor. -/
structure RelativeLink where
  climb : List Text
  folders : List Text
  stem : Text
  anchor : Option Text
  climbs : ∀ segment ∈ climb, isDots segment = true
  named : ∀ name ∈ folders ++ [stem], Name.Publishable name
  no_sign : ∀ name ∈ folders ++ [stem], '#' ∉ name

private theorem eq_of_isDots {segment : Text} (dots : isDots segment = true) :
    segment = ['.'] ∨ segment = ['.', '.'] := by
  simpa [isDots] using dots

namespace RelativeLink

variable (link : RelativeLink)

/-- The path to the document, without its extension. -/
def stemPath : Text :=
  Text.join ['/'] (link.climb ++ (link.folders ++ [link.stem]))

/-- The link, as its author wrote it. -/
def destination : Text :=
  link.stemPath ++ ".md".toList ++
    match link.anchor with
    | none => []
    | some anchor => '#' :: anchor

/-- The published name of the document, and the anchor there. -/
def page : Text :=
  Name.publish link.stem ++ ".html".toList ++
    match link.anchor with
    | none => []
    | some anchor => '#' :: Anchor.ofText anchor

/-- The names that the published link goes down by. -/
def steps : List Text :=
  link.folders.map Name.publish ++ [link.page]

variable {link} {segment : Text}

/-- Dots hold neither slashes nor number signs. -/
theorem not_mem_climb {c : Char} (other : c ≠ '.') (member : segment ∈ link.climb) :
    c ∉ segment := by
  rcases eq_of_isDots (link.climbs segment member) with rfl | rfl <;> simpa using other

private theorem publishable_stem : Name.Publishable link.stem :=
  link.named _ (List.mem_append_right _ List.mem_cons_self)

private theorem publishable_of_mem (member : segment ∈ link.folders) : Name.Publishable segment :=
  link.named _ (List.mem_append_left _ member)

private theorem not_sign_stemPath : '#' ∉ link.stemPath := by
  refine Text.not_mem_join (by decide) (List.forall_mem_append.mpr ⟨fun segment member => ?_, ?_⟩)
  · exact not_mem_climb (by decide) member
  · exact link.no_sign

private theorem splitOn_stemPath :
    Text.splitOn '/' link.stemPath = link.climb ++ (link.folders ++ [link.stem]) := by
  refine Text.splitOn_join (by simp) (List.forall_mem_append.mpr ⟨fun segment member => ?_, ?_⟩)
  · exact not_mem_climb (by decide) member
  · exact fun name member => (link.named name member).whole

private theorem publishSegment_climb (member : segment ∈ link.climb) :
    publishSegment segment = segment := by
  rcases eq_of_isDots (link.climbs segment member) with rfl | rfl <;> rfl

/-- The path to the page: the same dots, and the published names. -/
theorem pagePath_stemPath : pagePath link.stemPath =
    Text.join ['/'] (link.climb ++ (link.folders.map Name.publish ++
      [Name.publish link.stem ++ ".html".toList])) := by
  have dots : link.climb.map publishSegment = link.climb :=
    List.map_congr_left (fun _ => publishSegment_climb) |>.trans (List.map_id _)
  have names : link.folders.map publishSegment = link.folders.map Name.publish :=
    List.map_congr_left fun _ member => Link.publishSegment_name (publishable_of_mem member)
  rw [pagePath, splitOn_stemPath, ← List.append_assoc,
    Link.publishSegments_concat publishable_stem.isName, List.map_append, dots, names,
    List.append_assoc]

/-- The published link goes down by the published names behind the same dots. -/
theorem publish_destination :
    Link.publish link.destination = Text.join ['/'] (link.climb ++ link.steps) := by
  unfold destination steps page
  cases link.anchor with
  | none =>
    rw [List.append_nil, List.append_nil, Link.publish_document not_sign_stemPath,
      pagePath_stemPath]
  | some anchor =>
    rw [Link.publish_document_anchor not_sign_stemPath, pagePath_stemPath, ← List.append_assoc,
      ← List.append_assoc]
    exact (Text.join_concat_append ['/'] _ _ _).symm

private theorem isDots_of_named (name : Text) : isDots (Name.publish name) = false := by
  rw [isDots, Bool.or_eq_false_iff, beq_eq_false_iff_ne, beq_eq_false_iff_ne]
  constructor <;>
  · intro dots
    exact Name.not_dot_publish name (dots ▸ List.mem_cons_self)

private theorem page_eq_append :
    ∃ behind, link.page = Name.publish link.stem ++ '.' :: 'h' :: behind := by
  unfold page
  rw [List.append_assoc]
  exact ⟨_, rfl⟩

/-- Each step goes down by a name. -/
theorem isDots_of_mem_steps (member : segment ∈ link.steps) : isDots segment = false := by
  rcases List.mem_append.mp member with folder | last
  · obtain ⟨name, -, rfl⟩ := List.mem_map.mp folder
    exact isDots_of_named name
  · obtain ⟨behind, same⟩ := link.page_eq_append
    rw [List.mem_singleton.mp last, same, isDots, Bool.or_eq_false_iff, beq_eq_false_iff_ne,
      beq_eq_false_iff_ne]
    have held : 'h' ∈ Name.publish link.stem ++ '.' :: 'h' :: behind := by simp
    constructor <;>
    · intro dots
      exact absurd (dots ▸ held) (by decide)

private theorem whole_of_mem_steps (member : segment ∈ link.steps) : '/' ∉ segment := by
  rcases List.mem_append.mp member with folder | last
  · obtain ⟨name, listed, rfl⟩ := List.mem_map.mp folder
    exact Name.not_slash_publish (publishable_of_mem listed).whole
  · rw [List.mem_singleton.mp last, page]
    refine List.not_mem_append (List.not_mem_append ?_ (by decide)) ?_
    · exact Name.not_slash_publish publishable_stem.whole
    · cases link.anchor with
      | none => exact List.not_mem_nil
      | some anchor =>
        exact List.not_mem_cons_of_ne_of_not_mem (by decide)
          (Html.not_mem_of_isAnchorChar (Link.isAnchorChar_ofText anchor) (by decide))

/-- What goes down by names starts with none of the signs that dots and paths start with. -/
theorem exists_join_steps_eq_cons :
    ∃ c rest, Text.join ['/'] link.steps = c :: rest ∧ c ≠ '.' ∧ c ≠ '/' := by
  obtain ⟨name, publishable, behind, joined⟩ : ∃ name, Name.Publishable name ∧
      ∃ behind, Text.join ['/'] link.steps = Name.publish name ++ behind := by
    unfold steps
    cases folders : link.folders with
    | nil =>
      obtain ⟨behind, same⟩ := link.page_eq_append
      refine ⟨link.stem, publishable_stem, '.' :: 'h' :: behind, ?_⟩
      rw [List.map_nil, List.nil_append, Text.join, List.intercalate_singleton, same]
    | cons folder others =>
      refine ⟨folder, publishable_of_mem (folders ▸ List.mem_cons_self),
        ['/'] ++ Text.join ['/'] (others.map Name.publish ++ [link.page]), ?_⟩
      rw [List.map_cons, List.cons_append, Text.join,
        List.intercalate_cons_of_ne_nil (by simp), List.append_assoc]
      rfl
  obtain ⟨c, rest, named⟩ := List.exists_cons_of_ne_nil publishable.published
  refine ⟨c, rest ++ behind, by rw [joined, named, List.cons_append], ?_, ?_⟩
  · rintro rfl
    exact Name.not_dot_publish name (named ▸ List.mem_cons_self)
  · rintro rfl
    exact Name.not_slash_publish publishable.whole (named ▸ List.mem_cons_self)

end RelativeLink

/-! ## The command and the path -/

/-- The command that a relative link is written with, and the segments of the path that it
leads to: after two steps up the last two segments, behind a dot all others, and else the
names. -/
def route (climb steps : List Text) : LinkName × List Text :=
  if [['.', '.'], ['.', '.']] <+: climb then
    (.lib, (climb ++ steps).drop ((climb ++ steps).length - 2))
  else if climb.head? = some ['.'] then (.lib, climb.tail ++ steps)
  else (.href, steps)

/-- Names behind dots hold no dots only where there are none in front. -/
theorem forall_isDots_append_iff {dots names : List Text}
    (climbs : ∀ segment ∈ dots, isDots segment = true)
    (named : ∀ segment ∈ names, isDots segment = false) :
    (∀ segment ∈ dots ++ names, isDots segment = false) ↔ dots = [] := by
  constructor
  · intro clear
    rw [List.eq_nil_iff_forall_not_mem]
    intro segment member
    have dotted := climbs segment member
    rw [clear segment (List.mem_append_left _ member)] at dotted
    cases dotted
  · rintro rfl
    exact named

/-- The path holds dots where other dots follow the first one, and where two steps up are
followed by a single name. -/
theorem forall_isDots_route_iff {climb steps : List Text}
    (climbs : ∀ segment ∈ climb, isDots segment = true)
    (names : ∀ segment ∈ steps, isDots segment = false) :
    (∀ segment ∈ (route climb steps).2, isDots segment = false) ↔
      (climb.head? = some ['.'] → climb = [['.']]) ∧
        ([['.', '.'], ['.', '.']] <+: climb → 2 ≤ steps.length) := by
  unfold route
  split
  case isTrue up =>
    have first : climb.head? ≠ some ['.'] := by
      obtain ⟨more, rfl⟩ := up
      simp
    have long : 2 ≤ climb.length := up.length_le
    -- With a single name the last of the dots is kept.
    have dropped : climb.drop ((climb ++ steps).length - 2) = [] ↔ 2 ≤ steps.length := by
      rw [List.drop_eq_nil_iff, List.length_append]
      omega
    rw [List.drop_append, forall_isDots_append_iff
      (fun segment member => climbs segment (List.mem_of_mem_drop member))
      (fun segment member => names segment (List.mem_of_mem_drop member)), dropped]
    exact ⟨fun enough => ⟨fun dot => absurd dot first, fun _ => enough⟩,
      fun conditions => conditions.2 up⟩
  case isFalse up =>
    split
    case isTrue here =>
      obtain ⟨more, rfl⟩ := List.head?_eq_some_iff.mp here
      rw [List.tail_cons, forall_isDots_append_iff
        (fun segment member => climbs segment (List.mem_cons_of_mem _ member)) names]
      constructor
      · rintro rfl
        exact ⟨fun _ => rfl, fun prefixed => absurd prefixed up⟩
      · exact fun conditions => (List.cons.inj (conditions.1 here)).2
    case isFalse here =>
      exact iff_of_true names ⟨fun dot => absurd dot here, fun prefixed => absurd prefixed up⟩

private theorem route_subset (climb steps : List Text) :
    (route climb steps).2 ⊆ climb ++ steps := by
  unfold route
  split
  · exact List.drop_subset _ _
  · split
    · exact fun _ member => List.mem_append.mpr
        ((List.mem_append.mp member).imp_left List.mem_of_mem_tail)
    · exact List.subset_append_right climb steps

private theorem suffix_route {climb steps : List Text} {last : Text} (ends : [last] <:+ steps) :
    [last] <:+ (route climb steps).2 := by
  have longer (front : List Text) : [last] <:+ front ++ steps :=
    ends.trans (List.suffix_append front steps)
  unfold route
  split
  · obtain ⟨front, whole⟩ := longer climb
    dsimp only
    rw [← whole, List.drop_append_of_le_length (by simp)]
    exact List.suffix_append _ _
  · split
    · exact longer climb.tail
    · exact ends

namespace RelativeLink

variable {link : RelativeLink}

private theorem steps_ne_nil : link.steps ≠ [] :=
  List.append_ne_nil_of_right_ne_nil _ (List.cons_ne_nil _ _)

private theorem suffix_steps : [link.page] <:+ link.steps :=
  List.suffix_append _ _

private theorem whole_of_mem {segment : Text} (member : segment ∈ link.climb ++ link.steps) :
    '/' ∉ segment :=
  (List.mem_append.mp member).elim (not_mem_climb (by decide)) whole_of_mem_steps

/-- Behind the dots of a published link other characters follow. -/
theorem join_climb_steps (climb : List Text) :
    Text.join ['/'] (climb ++ link.steps) =
      climb.flatMap (· ++ ['/']) ++ Text.join ['/'] link.steps := by
  induction climb with
  | nil => rfl
  | cons segment climb ih =>
    have later : climb ++ link.steps ≠ [] := List.append_ne_nil_of_right_ne_nil _ steps_ne_nil
    rw [List.cons_append, Text.join, List.intercalate_cons_of_ne_nil later, List.flatMap_cons,
      List.append_assoc, List.append_assoc, List.append_assoc, ← ih]
    rfl

/-- A relative link leads to the address of the site and the steps of the link. -/
theorem siteAddress_steps :
    siteAddress config (Text.join ['/'] (link.climb ++ link.steps)) =
      config.siteBaseUrl.dropEndWhile (· == '/') ++ '/' :: Text.join ['/'] link.steps := by
  have relative : (Text.join ['/'] (link.climb ++ link.steps)).dropWhile (· == '/') =
      Text.join ['/'] (link.climb ++ link.steps) := by
    obtain ⟨c, rest, joined, -, slash⟩ := link.exists_join_steps_eq_cons
    rw [join_climb_steps, joined]
    cases climb : link.climb with
    | nil => exact List.dropWhile_cons_of_neg (by simpa using slash)
    | cons segment others =>
      rcases eq_of_isDots (link.climbs segment (climb ▸ List.mem_cons_self)) with rfl | rfl <;> rfl
  have names : (link.climb ++ link.steps).dropWhile isDots = link.steps := by
    rw [List.dropWhile_append_of_pos link.climbs]
    obtain ⟨first, others, steps⟩ := List.exists_cons_of_ne_nil link.steps_ne_nil
    rw [steps]
    exact List.dropWhile_cons_of_neg (by
      rw [isDots_of_mem_steps (steps ▸ List.mem_cons_self)]
      exact Bool.false_ne_true)
  rw [siteAddress, relative, Text.splitOn_join _ fun _ => whole_of_mem, names]
  exact List.append_ne_nil_of_right_ne_nil _ steps_ne_nil

/-- **What a relative link is written with.** -/
theorem pageTarget_steps :
    pageTarget config (Text.join ['/'] (link.climb ++ link.steps)) =
      ((route link.climb link.steps).1, (route link.climb link.steps).1.site config ++
        '/' :: Text.join ['/'] (route link.climb link.steps).2) := by
  have split := Text.splitOn_join
    (List.append_ne_nil_of_right_ne_nil link.climb link.steps_ne_nil) fun _ => whole_of_mem
  have address := @siteAddress_steps config link
  obtain ⟨c, rest, joined, dot, slash⟩ := link.exists_join_steps_eq_cons
  have behind (climb : List Text) := link.join_climb_steps climb
  have climbs := link.climbs
  unfold pageTarget route
  rw [lastTwoSegments, split, address,
    show "../../".toList = ['.', '.', '/', '.', '.', '/'] from rfl,
    show "./".toList = ['.', '/'] from rfl, behind]
  generalize link.climb = climb at climbs ⊢
  -- The prefixes are looked for in the characters of the dots, and no further.
  rcases climb with _ | ⟨first, climb⟩
  · simp [Text.startsWith, Text.dropStart?, joined, dot.symm, LinkName.site]
  · obtain ⟨here, later⟩ := List.forall_mem_cons.mp climbs
    rcases eq_of_isDots here with rfl | rfl
    · simp [Text.startsWith, Text.dropStart?, LinkName.site, behind]
    · rcases climb with _ | ⟨second, climb⟩
      · simp [Text.startsWith, Text.dropStart?, joined, dot.symm, LinkName.site]
      · rcases eq_of_isDots (later second List.mem_cons_self) with rfl | rfl
        · simp [Text.startsWith, Text.dropStart?, LinkName.site]
        · simp [Text.startsWith, LinkName.site]

/-- No segment of the path is empty, so no two slashes stand in a row. -/
theorem not_slashes_path : ¬ ['/', '/'] <:+: link.stemPath ++ ".md".toList := by
  intro run
  obtain ⟨front, last, parts, longer⟩ :=
    Text.splitOn_append (show '/' ∉ ".md".toList by decide) link.stemPath
  have empty := Text.nil_mem_splitOn run
  rw [longer, List.mem_append, List.mem_singleton] at empty
  have listed : [] ∈ link.climb ++ (link.folders ++ [link.stem]) := by
    rw [← splitOn_stemPath, parts]
    exact List.mem_append_left _ (empty.resolve_right (by simp))
  rcases List.mem_append.mp listed with dots | name
  · exact absurd (link.climbs _ dots) (by decide)
  · exact (link.named _ name).isName.nonempty rfl

/-- A relative link leads to a document for LaTeX unless its anchor looks like an address. -/
theorem isDocumentLink_destination :
    isDocumentLink link.destination = true ↔
      ∀ anchor ∈ link.anchor, ¬ "://".toList <:+: anchor := by
  have sign : '#' ∉ link.stemPath ++ ".md".toList :=
    List.not_mem_append not_sign_stemPath (by decide)
  have ends : (link.stemPath ++ ".md".toList).endsWith ".md".toList = true :=
    List.isSuffixOf_iff_suffix.mpr (List.suffix_append _ _)
  have path : ¬ "://".toList <:+: link.stemPath ++ ".md".toList := by
    have slashes : ['/', '/'] <:+: "://".toList := ⟨[':'], [], rfl⟩
    exact fun scheme => not_slashes_path (slashes.trans scheme)
  rw [isDocumentLink_iff, Bool.eq_false_iff, Ne, Text.occursIn_iff]
  unfold destination
  cases link.anchor with
  | none =>
    rw [List.append_nil, Link.splitAnchor_of_not_mem sign]
    exact iff_of_true ⟨ends, path⟩ (by simp)
  | some anchor =>
    dsimp only
    rw [Link.splitAnchor_append_cons sign, Text.infix_append_cons_iff (by decide), not_or]
    simp only [Option.mem_some_iff, forall_eq']
    exact ⟨fun document => document.2.2, fun clean => ⟨ends, path, clean⟩⟩

end RelativeLink

/-! ## Links that stay on the site -/

variable {href : Text} {link : RelativeLink}

/-- A link that leads to no document is written as it stands. -/
theorem renderLink_of_other
    (other : isDocumentLink (Link.decode (Link.dropAngles href)) = false) :
    renderLink config text href = linkTo text .href (Link.dropAngles href) := by
  rw [renderLink_eq, linkTarget, other]
  rfl

private theorem renderLink_relative (read : Link.decode (Link.dropAngles href) = link.destination)
    (clean : ∀ anchor ∈ link.anchor, ¬ "://".toList <:+: anchor) :
    renderLink config text href = linkTo text (route link.climb link.steps).1
      ((route link.climb link.steps).1.site config ++
        '/' :: Text.join ['/'] (route link.climb link.steps).2) := by
  have document : isDocumentLink (Link.decode (Link.dropAngles href)) = true := by
    rw [read]
    exact RelativeLink.isDocumentLink_destination.mpr clean
  rw [renderLink_eq, linkTarget_of_document document, read, RelativeLink.publish_destination,
    RelativeLink.pageTarget_steps]
  rfl

/-- A page with the anchor of a document behind it is never read as that document: the anchor
keeps the letters of the extension. -/
theorem decode_page_ne {path : Text} (absent : '#' ∉ path) (document : ".md".toList <:+ path)
    (front anchor : Text) :
    Link.decode (front ++ ".html".toList ++ '#' :: Anchor.ofText anchor) ≠
      path ++ '#' :: anchor := by
  intro read
  have extension : Link.reading (front ++ ".html".toList) =
      Link.reading front ++ ".html".toList := by
    have written : Link.reading "html".toList = "html".toList :=
      Link.reading_eq_self (by decide) (by decide)
    rw [show front ++ ".html".toList = front ++ '.' :: "html".toList from rfl,
      Link.reading_append_cons (by decide), written]
    rfl
  rw [Link.decode_append_anchor (Link.isAnchorChar_ofText anchor), extension] at read
  obtain ⟨between, page, rest⟩ := Text.exists_append_of_not_mem absent read.symm
  rcases between with _ | ⟨sign, between⟩
  · rw [List.append_nil] at page
    have ends := (Link.PageEnd.extension (Link.reading front)).not_suffix
    exact ends (page ▸ document)
  · obtain ⟨rfl, behind⟩ := List.cons.inj rest
    obtain ⟨before, -, longer⟩ := Text.exists_of_append_eq_append_cons (by decide) page
    have kept := Anchor.count_le_count_ofText (c := 'h') (by decide) (by decide) anchor
    have letters := congrArg (List.count 'h') behind
    rw [List.append_eq, longer, List.count_append, List.count_append, List.count_cons,
      show ".html".toList.count 'h' = 1 from rfl] at letters
    omega

/-- A link whose anchor looks like an address is not published. -/
theorem not_staysOnSite_of_address {anchor : Text} (held : anchor ∈ link.anchor)
    (address : "://".toList <:+: anchor)
    (read : Link.decode (Link.dropAngles href) = link.destination) :
    ¬ StaysOnSite config text link.page (renderLink config text href) := by
  have other : isDocumentLink (Link.decode (Link.dropAngles href)) = false := by
    rw [read, Bool.eq_false_iff, Ne, RelativeLink.isDocumentLink_destination]
    exact fun clean => clean anchor held address
  rw [renderLink_of_other other]
  rintro ⟨name, path, same, -, ⟨front, rfl⟩⟩
  obtain ⟨rfl, whole⟩ := eq_of_linkTo_eq same
  have absent : '#' ∉ link.stemPath ++ ".md".toList :=
    List.not_mem_append RelativeLink.not_sign_stemPath (by decide)
  rw [Option.mem_def] at held
  rw [whole, RelativeLink.page, RelativeLink.destination, held] at read
  refine decode_page_ne absent (List.suffix_append _ _)
    (LinkName.href.site config ++ '/' :: front ++ Name.publish link.stem) anchor ?_
  rw [← read]
  simp

/-- **Relative links stay on the site, or keep their dots.** A relative link to a document leads
to its page by a path of the site without dots exactly when no other dots follow a dot in front,
when two steps up are followed by a folder, and when the anchor does not look like an address. -/
theorem staysOnSite_iff (config : Config) (text href : Text) (link : RelativeLink)
    (read : Link.decode (Link.dropAngles href) = link.destination) :
    StaysOnSite config text link.page (renderLink config text href) ↔
      (link.climb.head? = some ['.'] → link.climb = [['.']]) ∧
        ([['.', '.'], ['.', '.']] <+: link.climb → link.folders ≠ []) ∧
        ∀ anchor ∈ link.anchor, ¬ "://".toList <:+: anchor := by
  by_cases clean : ∀ anchor ∈ link.anchor, ¬ "://".toList <:+: anchor
  · have lands : [link.page] <:+ (route link.climb link.steps).2 := suffix_route link.suffix_steps
    obtain ⟨front, last⟩ := lands
    have whole : ∀ segment ∈ (route link.climb link.steps).2, '/' ∉ segment :=
      fun segment member => link.whole_of_mem (route_subset _ _ member)
    have nonempty : (route link.climb link.steps).2 ≠ [] := by
      rw [← last]
      exact List.append_ne_nil_of_right_ne_nil front (List.cons_ne_nil _ _)
    have ends : link.page <:+ Text.join ['/'] (route link.climb link.steps).2 := by
      rw [← last]
      exact ⟨_, (Text.join_concat_append ['/'] front [] link.page).symm⟩
    have folders : 2 ≤ link.steps.length ↔ link.folders ≠ [] := by
      rw [RelativeLink.steps, List.length_append, List.length_map, List.length_singleton,
        ← List.length_pos_iff]
      omega
    rw [renderLink_relative read clean, staysOnSite_linkTo_iff, Text.splitOn_join nonempty whole,
      forall_isDots_route_iff link.climbs (fun _ => RelativeLink.isDots_of_mem_steps), folders]
    exact ⟨fun stays => ⟨stays.1.1, stays.1.2, clean⟩,
      fun conditions => ⟨⟨conditions.1, conditions.2.1⟩, ends⟩⟩
  · refine iff_of_false ?_ fun conditions => clean conditions.2.2
    push Not at clean
    obtain ⟨anchor, held, address⟩ := clean
    exact not_staysOnSite_of_address held address read

/-- A link two steps up and two folders down, with an ordinal number and an anchor. -/
def RelativeLink.terms : RelativeLink where
  climb := [['.', '.'], ['.', '.']]
  folders := ["Encyclopedia".toList, "01 - Terms".toList]
  stem := "Meaning & Use".toList
  anchor := some "The Claim".toList
  climbs := by decide
  named := by decide +kernel
  no_sign := by decide +kernel

/-- A link with dots, spaces and an anchor keeps to the site. -/
theorem staysOnSite_terms :
    Link.decode (Link.dropAngles
        "<../../Encyclopedia/01%20-%20Terms/Meaning & Use.md#The Claim>".toList) =
      RelativeLink.terms.destination ∧
    StaysOnSite .standard ['x'] RelativeLink.terms.page (renderLink .standard ['x']
      "<../../Encyclopedia/01%20-%20Terms/Meaning & Use.md#The Claim>".toList) := by
  have read : Link.decode (Link.dropAngles
        "<../../Encyclopedia/01%20-%20Terms/Meaning & Use.md#The Claim>".toList) =
      RelativeLink.terms.destination := by
    decide +kernel
  refine ⟨read, (staysOnSite_iff .standard ['x'] _ .terms read).mpr ⟨?_, ?_, ?_⟩⟩
  · exact fun dot => absurd dot (by decide)
  · exact fun _ => List.cons_ne_nil _ _
  · decide +kernel

/-- With a single name two steps up the page is looked for above the site. -/
theorem not_staysOnSite_twoUp :
    renderLink .standard ['x'] "../../A.md".toList = "\\lib\x7b/../a.html\x7d\x7bx\x7d".toList ∧
      ¬ StaysOnSite .standard ['x'] "a.html".toList
        (renderLink .standard ['x'] "../../A.md".toList) := by
  have written : renderLink .standard ['x'] "../../A.md".toList =
      linkTo ['x'] .lib (LinkName.lib.site .standard ++ '/' :: "../a.html".toList) := by
    decide +kernel
  rw [written, staysOnSite_linkTo_iff]
  exact ⟨by decide +kernel,
    fun stays => absurd (stays.1 "..".toList (by decide +kernel)) (by decide)⟩

end Scriptorium.Latex
