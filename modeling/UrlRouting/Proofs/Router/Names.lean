import UrlRouting.Proofs.Bindings
import UrlRouting.Proofs.Text.Folding
import UrlRouting.Router.Draft
import UrlRouting.Router.Linking

/-!
# Links by name

While a router is built, the names of the link entries are registered one after another. The first
entry of a name keeps the name (`Registered`), and an entry with another template than the first
one of its name is refused (`Outbound.conflict?`). So what a link by name is depends on the first
entry of the name and on no entry of another name (`Draft.link_by_name`).
-/

namespace UrlRouting

open Text

namespace Outbound

/-- Whether an entry has a name, in whatever spelling. -/
def isNamed (e : Outbound) (name : String) : Bool := e.name?.any (sameText name)

/-- The first entry of a name. -/
def firstNamed? (es : List Outbound) (name : String) : Option Outbound := es.find? (·.isNamed name)

/-- What is wrong with one of some entries: the first entry of its name has another template. -/
def conflict? (es : List Outbound) (e : Outbound) : Option BuildError :=
  match e.name? with
  | none => none
  | some name =>
    match firstNamed? es name with
    | none => none
    | some first =>
      if sameText first.templateText e.templateText then none
      else some (.duplicateRouteName name first.templateText e.templateText)

variable {es : List Outbound} {e : Outbound} {name : String}

theorem isNamed_iff : e.isNamed name ↔ ∃ name', e.name? = some name' ∧ fold name = fold name' := by
  simp [isNamed, Option.any_eq_true, sameText_iff]

theorem isNamed_iff_of_name? {name' : String} (h : e.name? = some name) :
    e.isNamed name' ↔ fold name = fold name' := by
  rw [isNamed, h, Option.any_some, sameText_iff, eq_comm]

theorem isNamed_of_name? (h : e.name? = some name) : e.isNamed name :=
  (isNamed_iff_of_name? h).2 rfl

theorem firstNamed?_congr {name' : String} (h : fold name = fold name') :
    firstNamed? es name = firstNamed? es name' := by
  have hsame (e : Outbound) : e.isNamed name = e.isNamed name' := by
    rw [Bool.eq_iff_iff, isNamed_iff, isNamed_iff, h]
  simp only [firstNamed?, hsame]

theorem firstNamed?_append (es es' : List Outbound) (name : String) :
    firstNamed? (es ++ es') name = (firstNamed? es name).or (firstNamed? es' name) :=
  List.find?_append

/-- A name that an entry has belongs to a first entry. -/
theorem exists_firstNamed? (he : e ∈ es) (hname : e.name? = some name) :
    ∃ first ∈ es, firstNamed? es name = some first ∧ first.isNamed name := by
  have hsome : (firstNamed? es name).isSome :=
    List.find?_isSome.2 ⟨e, he, isNamed_of_name? hname⟩
  obtain ⟨first, hfirst⟩ := Option.isSome_iff_exists.1 hsome
  have hnamed := List.find?_some hfirst
  exact ⟨first, List.mem_of_find?_eq_some hfirst, hfirst, hnamed⟩

theorem conflict?_of_name?_eq_none (hname : e.name? = none) : conflict? es e = none := by
  rw [conflict?, hname]

theorem conflict?_of_firstNamed? {first : Outbound} (hname : e.name? = some name)
    (hfirst : firstNamed? es name = some first) :
    conflict? es e =
      if sameText first.templateText e.templateText then none
      else some (.duplicateRouteName name first.templateText e.templateText) := by
  rw [conflict?, hname]
  dsimp only
  rw [hfirst]

/-- Entries behind it do not change what is wrong with an entry. -/
theorem conflict?_append (he : e ∈ es) (es' : List Outbound) :
    conflict? (es ++ es') e = conflict? es e := by
  cases hname : e.name? with
  | none => rw [conflict?_of_name?_eq_none hname, conflict?_of_name?_eq_none hname]
  | some name =>
    obtain ⟨first, -, hfirst, -⟩ := exists_firstNamed? he hname
    have hfirst' : firstNamed? (es ++ es') name = some first := by
      rw [firstNamed?_append, hfirst, Option.some_or]
    rw [conflict?_of_firstNamed? hname hfirst, conflict?_of_firstNamed? hname hfirst']

/-- Something is wrong with one of some entries if and only if two of them share a name and not the
template. -/
theorem exists_conflict?_iff :
    (∃ err, es.findSome? (conflict? es) = some err) ↔
      ∃ e ∈ es, ∃ e' ∈ es, ∃ name name', e.name? = some name ∧ e'.name? = some name' ∧
        sameText name name' ∧ ¬ sameText e.templateText e'.templateText := by
  constructor
  · rintro ⟨err, herr⟩
    obtain ⟨e, he, hconflict⟩ := List.exists_of_findSome?_eq_some herr
    cases hname : e.name? with
    | none =>
      rw [conflict?_of_name?_eq_none hname] at hconflict
      cases hconflict
    | some name =>
      obtain ⟨first, hmem, hfirst, hnamed⟩ := exists_firstNamed? he hname
      obtain ⟨name', hname', hfold⟩ := isNamed_iff.1 hnamed
      refine ⟨first, hmem, e, he, name', name, hname', hname, sameText_iff.2 hfold.symm, ?_⟩
      intro hsame
      rw [conflict?_of_firstNamed? hname hfirst, if_pos hsame] at hconflict
      cases hconflict
  · rintro ⟨e, he, e', he', name, name', hname, hname', hsame, htext⟩
    -- at least one of the two differs from the first entry of their name
    obtain ⟨first, -, hfirst, -⟩ := exists_firstNamed? he hname
    have hfirst' : firstNamed? es name' = some first := by
      rw [← firstNamed?_congr (sameText_iff.1 hsame), hfirst]
    rw [← Option.isSome_iff_exists, List.findSome?_isSome_iff]
    by_cases hagree : sameText first.templateText e.templateText
    · refine ⟨e', he', ?_⟩
      have hdiffer : ¬ sameText first.templateText e'.templateText := fun h =>
        htext (sameText_iff.2 ((sameText_iff.1 hagree).symm.trans (sameText_iff.1 h)))
      rw [conflict?_of_firstNamed? hname' hfirst', if_neg hdiffer]
      rfl
    · refine ⟨e, he, ?_⟩
      rw [conflict?_of_firstNamed? hname hfirst, if_neg hagree]
      rfl

/-- The first entry of a name depends on the entries of this name only. -/
theorem firstNamed?_filter (es : List Outbound) (name : String) :
    firstNamed? (es.filter (·.isNamed name)) name = firstNamed? es name := by
  simp [firstNamed?, List.find?_filter]

end Outbound

/-! ### Registration -/

open Outbound

/-- A table of names in which some entries are registered. -/
structure Registered (named : TextMap Outbound) (es : List Outbound) : Prop where
  /-- Each name belongs to the first entry that has it. -/
  first : ∀ name, named.get? (fold name) = firstNamed? es name
  /-- No entry was refused. -/
  agree : ∀ e ∈ es, conflict? es e = none

namespace Registered

variable {named : TextMap Outbound} {es : List Outbound} {e : Outbound} {name : String}

theorem empty : Registered .empty [] where
  first _ := rfl
  agree _ h := nomatch h

/-- Registering one more entry with which nothing is wrong. -/
theorem concat {named' : TextMap Outbound} (h : Registered named es)
    (hfirst : ∀ name, named'.get? (fold name) = firstNamed? (es ++ [e]) name)
    (hagree : conflict? (es ++ [e]) e = none) : Registered named' (es ++ [e]) where
  first := hfirst
  agree e' he' := by
    rcases List.mem_append.1 he' with he' | he'
    · rw [conflict?_append he', h.agree e' he']
    · rw [List.mem_singleton.1 he', hagree]

/-- An entry without a name changes no table. -/
theorem unnamed (h : Registered named es) (hname : e.name? = none) :
    Registered named (es ++ [e]) := by
  refine h.concat (fun name => ?_) (conflict?_of_name?_eq_none hname)
  rw [firstNamed?_append, h.first]
  simp [firstNamed?, isNamed, hname]

/-- An entry gets a name that no entry has. -/
theorem fresh (h : Registered named es) (hname : e.name? = some name)
    (hnone : named.get? (fold name) = none) :
    Registered (named.insert (fold name, e)) (es ++ [e]) := by
  have hfirst (name' : String) : TextMap.get? (named.insert (fold name, e)) (fold name') =
      firstNamed? (es ++ [e]) name' := by
    rw [TextMap.get?_insert, firstNamed?_append, ← h.first]
    by_cases hfold : fold name = fold name'
    · have hnamed : e.isNamed name' := (isNamed_iff_of_name? hname).2 hfold
      rw [if_pos hfold, ← hfold, hnone, Option.none_or]
      simp [firstNamed?, hnamed]
    · have hnamed : ¬ e.isNamed name' := fun h => hfold ((isNamed_iff_of_name? hname).1 h)
      rw [if_neg hfold]
      simp [firstNamed?, hnamed]
  refine h.concat hfirst ?_
  have hself : firstNamed? (es ++ [e]) name = some e := by
    rw [← hfirst, TextMap.get?_insert, if_pos rfl]
  rw [conflict?_of_firstNamed? hname hself, if_pos (sameText_self _)]

/-- An entry of a name that another one has, with the same template. -/
theorem again {first : Outbound} (h : Registered named es) (hname : e.name? = some name)
    (hfirst : named.get? (fold name) = some first)
    (hsame : sameText first.templateText e.templateText) : Registered named (es ++ [e]) := by
  have hother (name' : String) : named.get? (fold name') = firstNamed? (es ++ [e]) name' := by
    rw [firstNamed?_append, ← h.first]
    cases hget : named.get? (fold name') with
    | some first' => rfl
    | none =>
      have hnamed : ¬ e.isNamed name' := by
        rw [isNamed_iff_of_name? hname]
        intro hfold
        rw [← hfold, hfirst] at hget
        cases hget
      simp [firstNamed?, hnamed]
  refine h.concat hother ?_
  rw [hother] at hfirst
  rw [conflict?_of_firstNamed? hname hfirst, if_pos hsame]

/-- Registering entries gives the table of all of them, or refuses the first entry with which
something is wrong. -/
theorem extend (h : Registered named es) (es' : List Outbound) :
    match registerNames named es' with
    | .ok named' => Registered named' (es ++ es')
    | .error err => (es ++ es').findSome? (conflict? (es ++ es')) = some err := by
  induction es' generalizing named es with
  | nil => simpa [registerNames] using h
  | cons e rest ih =>
    have hsplit : es ++ e :: rest = (es ++ [e]) ++ rest := by simp
    rw [registerNames, hsplit]
    cases hname : e.name? with
    | none => exact ih (h.unnamed hname)
    | some name =>
      dsimp only
      cases hget : named.get? (fold name) with
      | none => exact ih (h.fresh hname hget)
      | some first =>
        dsimp only
        by_cases hsame : sameText first.templateText e.templateText
        · rw [if_pos hsame]
          exact ih (h.again hname hget hsame)
        · rw [if_neg hsame]
          -- nothing is wrong with the entries before this one
          have hbefore : es.findSome? (conflict? (es ++ [e] ++ rest)) = none := by
            rw [List.findSome?_eq_none_iff]
            intro e' he'
            rw [List.append_assoc, conflict?_append he', h.agree e' he']
          have hfirst : firstNamed? (es ++ [e] ++ rest) name = some first := by
            rw [List.append_assoc, firstNamed?_append, ← h.first, hget, Option.some_or]
          have hconflict := conflict?_of_firstNamed? hname hfirst
          rw [if_neg hsame] at hconflict
          dsimp only
          rw [List.findSome?_append, List.findSome?_append, hbefore, Option.none_or,
            List.findSome?_singleton, hconflict, Option.some_or]

end Registered

/-! ### Links -/

/-- An attempt after which others are made has come to nothing but what happened. -/
theorem LinkAttempt.eq_of_goesOn {τ : Type} {attempt : LinkAttempt τ} (h : attempt.goesOn) :
    attempt = { link? := none, ending := .answered, trace := attempt.trace } := by
  simp only [goesOn, Bool.and_eq_true, Option.isNone_iff_eq_none, decide_eq_true_eq] at h
  rw [← h.1, ← h.2]

namespace Router

variable {τ ν : Type} {r r' : Router τ ν} {q : LinkRequest} {name : String}

/-- There is no link if the receiver breaks down. -/
theorem link?_of_panicked {receive : ν → LinkRequest → LinkReply τ} {e : Outbound}
    (h : (r.writeLink receive q e).ending = .panicked) :
    (r.writeLink receive q e).link? = none := by
  revert h
  unfold writeLink
  split
  · exact nofun
  · split
    · exact nofun
    · dsimp only
      split
      · exact fun _ => rfl
      · split <;> exact nofun

theorem firstLink_singleton (receive : ν → LinkRequest → LinkReply τ) (r : Router τ ν)
    (q : LinkRequest) (e : Outbound) :
    r.firstLink receive q [e] = r.writeLink receive q e := by
  unfold firstLink
  dsimp only
  split
  next hopen => rw [firstLink, LinkAttempt.after, LinkAttempt.eq_of_goesOn hopen, List.append_nil]
  next => rfl

/-- Of a router, an entry needs only the receiver to write its link. -/
theorem writeLink_of_next (hnext : r'.next = r.next) (receive : ν → LinkRequest → LinkReply τ)
    (q : LinkRequest) (e : Outbound) : r'.writeLink receive q e = r.writeLink receive q e := by
  unfold writeLink
  rw [hnext]

/-- The link by a name is that of the entry to which the name belongs. -/
theorem link_of_name (receive : ν → LinkRequest → LinkReply τ) (hname : q.name? = some name) :
    (r.link receive q).link? =
      (r.named.get? (fold name)).bind fun e => (r.writeLink receive q e).link? := by
  unfold link entriesFor
  rw [hname]
  dsimp only
  cases r.named.get? (fold name) with
  | none => rfl
  | some e =>
    rw [Option.toList_some, firstLink_singleton, Option.bind_some]
    split
    next hpanicked => exact (link?_of_panicked hpanicked).symm
    next => rfl

/-- Routers with one receiver give one answer to a request by name if the name belongs to one
entry. -/
theorem link_congr (receive : ν → LinkRequest → LinkReply τ) (hname : q.name? = some name)
    (hnext : r'.next = r.next) (hget : r'.named.get? (fold name) = r.named.get? (fold name)) :
    r'.link receive q = r.link receive q := by
  have hentries : r'.entriesFor q = r.entriesFor q := by
    rw [entriesFor, entriesFor, hname]
    dsimp only
    rw [hget]
  have hfirst : r'.firstLink receive q (r.entriesFor q) =
      r.firstLink receive q (r.entriesFor q) := by
    rw [entriesFor, hname]
    dsimp only
    cases r.named.get? (fold name) with
    | none => rfl
    | some e =>
      rw [Option.toList_some, firstLink_singleton, firstLink_singleton, writeLink_of_next hnext]
  unfold link
  rw [hentries, hfirst]

end Router

namespace Draft

variable {τ ν : Type}

/-- A router is built if and only if the names can be registered. -/
theorem build_cases (d : Draft τ ν) (version : Int) :
    match d.build version with
    | .ok r => r.next = d.next ∧ Registered r.named d.outbound
    | .error err => d.outbound.findSome? (conflict? d.outbound) = some err := by
  have hnames := Registered.empty.extend d.outbound
  rw [build]
  cases h : registerNames .empty d.outbound with
  | error err => rwa [h] at hnames
  | ok named =>
    rw [h] at hnames
    exact ⟨rfl, hnames⟩

theorem registered_of_build {d : Draft τ ν} {version : Int} {r : Router τ ν}
    (h : d.build version = .ok r) : r.next = d.next ∧ Registered r.named d.outbound := by
  have hbuild := d.build_cases version
  rwa [h] at hbuild

/-- Building fails with what is wrong with the first entry with which something is wrong. -/
theorem build_eq_error_iff (d : Draft τ ν) (version : Int) (err : BuildError) :
    d.build version = .error err ↔ d.outbound.findSome? (conflict? d.outbound) = some err := by
  have hbuild := d.build_cases version
  cases h : d.build version with
  | error err' =>
    rw [h] at hbuild
    rw [hbuild, Except.error.injEq, Option.some_inj]
  | ok r =>
    rw [h] at hbuild
    have hnone : d.outbound.findSome? (conflict? d.outbound) = none :=
      List.findSome?_eq_none_iff.2 hbuild.2.agree
    simp [hnone]

/-- **The first entry of a name decides the links by this name**: a router cannot be built if and
only if two entries share a name and not the template, up to case, and then the first entry is
refused whose template is not that of the first entry of its name. The link by a name is what the
first entry of the name writes, and there is none without such an entry; whatever is done to
entries of other names, to entries without a name and to entries for requests, the answer stays
the same. -/
theorem link_by_name (d : Draft τ ν) (version : Int) :
    ((∃ err, d.build version = .error err) ↔
      ∃ e ∈ d.outbound, ∃ e' ∈ d.outbound, ∃ name name', e.name? = some name ∧
        e'.name? = some name' ∧ sameText name name' ∧
        ¬ sameText e.templateText e'.templateText) ∧
    (∀ err, d.build version = .error err ↔
      d.outbound.findSome? (conflict? d.outbound) = some err) ∧
    ∀ r, d.build version = .ok r → ∀ (receive : ν → LinkRequest → LinkReply τ) (q : LinkRequest)
      (name : String), q.name? = some name →
        ((r.link receive q).link? =
          (firstNamed? d.outbound name).bind fun e => (r.writeLink receive q e).link?) ∧
        ∀ (d' : Draft τ ν) (version' : Int) (r' : Router τ ν), d'.build version' = .ok r' →
          d'.next = d.next →
          d'.outbound.filter (·.isNamed name) = d.outbound.filter (·.isNamed name) →
            r'.link receive q = r.link receive q := by
  refine ⟨?_, d.build_eq_error_iff version, ?_⟩
  · simp only [d.build_eq_error_iff version]
    exact exists_conflict?_iff
  · intro r hr receive q name hname
    obtain ⟨hnext, hnames⟩ := registered_of_build hr
    refine ⟨by rw [Router.link_of_name receive hname, hnames.first], ?_⟩
    intro d' version' r' hr' hsame hentries
    obtain ⟨hnext', hnames'⟩ := registered_of_build hr'
    refine Router.link_congr receive hname (by rw [hnext', hnext, hsame]) ?_
    rw [hnames'.first, hnames.first, ← firstNamed?_filter, hentries, firstNamed?_filter]

/-- An entry for links to the pages of a blog. -/
def blogEntry (name? : Option String) (text : String) : Outbound where
  name?
  pattern := .ofTemplate { text, segments := [[.literal text]] } .empty
  constraints := .empty
  requirements := []
  group? := none

/-- Two entries of one name, and one of another name between them. -/
def blogDraft : Draft Unit Unit where
  next := ()
  outbound := [blogEntry (some "Blog") "posts", blogEntry (some "about") "me",
    blogEntry (some "BLOG") "Posts"]

/-- A request for the link of the blog. -/
def blogQuestion : LinkRequest where
  request := { method := "GET", path := "/" }
  ambient := .empty
  values := .empty
  name? := some "blog"
  provided? := none

/-- The first entry of the blog writes the link, and it does so without the entry of another name
as well. -/
theorem link_by_name_sample : ∃ r r', blogDraft.build 1 = .ok r ∧
    { blogDraft with outbound := [blogEntry none "new", blogEntry (some "Blog") "posts",
      blogEntry (some "BLOG") "Posts"] }.build 2 = .ok r' ∧
    (r.link (fun _ _ => ⟨none, true, .answered, []⟩) blogQuestion).link? =
      some { url := "/posts", template? := some "posts" } ∧
    r'.link (fun _ _ => ⟨none, true, .answered, []⟩) blogQuestion =
      r.link (fun _ _ => ⟨none, true, .answered, []⟩) blogQuestion := by
  have hbuilt (d : Draft Unit Unit) (version : Int)
      (h : d.outbound.findSome? (conflict? d.outbound) = none) : ∃ r, d.build version = .ok r := by
    cases hbuild : d.build version with
    | ok r => exact ⟨r, rfl⟩
    | error err =>
      rw [(link_by_name d version).2.1 err, h] at hbuild
      cases hbuild
  obtain ⟨r, hr⟩ := hbuilt blogDraft 1 (by decide +kernel)
  obtain ⟨r', hr'⟩ := hbuilt { blogDraft with outbound := [blogEntry none "new",
    blogEntry (some "Blog") "posts", blogEntry (some "BLOG") "Posts"] } 2 (by decide +kernel)
  obtain ⟨hlink, hothers⟩ := (link_by_name blogDraft 1).2.2 r hr
    (fun _ _ => ⟨none, true, .answered, []⟩) blogQuestion "blog" rfl
  refine ⟨r, r', hr, hr', ?_, hothers _ 2 r' hr' rfl ?_⟩
  · rw [hlink]
    rfl
  · rfl

end Draft

end UrlRouting
