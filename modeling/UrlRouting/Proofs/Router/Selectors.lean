import UrlRouting.Proofs.RoutePattern.Choice
import UrlRouting.Proofs.RoutePattern.Recovery
import UrlRouting.Router.Linking

/-!
# Values that only select an entry

An outbound entry may ask for values that its template has no place for. Such a value helps to find
the entry and has no other effect: the values that are chosen, what the receiver is handed and the
link are the same whatever it is, and its name is not in the query of the link
(`Router.writeLink_of_selectors`).
-/

namespace UrlRouting

open Text

namespace RoutePattern

variable {r : RoutePattern} {accepted : Bindings}

/-! ### The query of a link -/

/-- No question mark stands in a segment that is written, however many parts it has. -/
theorem notMem_of_writeSegment? {s : Segment} {w : WrittenSegment}
    (h : r.writeSegment? accepted s = some w) : '?' ∉ w.text.toList := by
  rcases writeSegment?_cases h with ⟨p, value, -, -, htext, -⟩ | ⟨p, -, -, -, htext, -⟩ |
    ⟨-, htext, -⟩
  · rw [htext]
    split
    · exact notMem_encodePieces value
    · exact notMem_percentEncode (by decide) (by decide) value
  · rw [htext]
    exact List.not_mem_nil
  · rw [htext]
    exact notMem_percentEncode (by decide) (by decide) _

/-- The query of a link has the chosen values without a place in the template, and no others. -/
theorem linkPairs_of_write? {url : String} (h : r.write? accepted = some url) :
    linkPairs url = (r.extras accepted).map fun b => (b.name, b.value) := by
  obtain ⟨kept, dropped, hwritten, -, -, -, hurl⟩ := exists_of_write? h
  have hsegments := forall₂_of_writeSegments? (R := fun _ w => '?' ∉ w.text.toList)
    (fun s _ w hw => notMem_of_writeSegment? hw) hwritten
  have hkept : ∀ w ∈ kept, '?' ∉ w.text.toList := by
    intro w hw
    obtain ⟨s, -, hs⟩ := exists_of_forall₂ hsegments.flip (List.mem_append_left dropped hw)
    exact hs
  have hurl : url = withQuery (pathOf kept) (r.extras accepted) := hurl
  rw [hurl, linkPairs_withQuery (notMem_pathOf hkept)]

end RoutePattern

/-! ### Selectors -/

namespace Outbound

variable {e : Outbound}

/-- Whether a name serves only to find an entry: something is asked of it, and it is not that of a
parameter. -/
def isSelector (e : Outbound) (name : String) : Bool :=
  e.requirements.mentions name && (e.pattern.template.parameter? name).isNone

/-- The spelling of a name does not matter. -/
theorem isSelector_congr {name name' : String} (h : fold name = fold name') :
    e.isSelector name = e.isSelector name' := by
  have hsame (written : String) : sameText written name = sameText written name' := by
    rw [Bool.eq_iff_iff, sameText_iff, sameText_iff, h]
  simp only [isSelector, Requirements.mentions, Requirements.get?, Template.parameter?, hsame]

/-- The data for the template are the values asked with that are no selectors. -/
theorem mem_inputOf {values : Bindings} {b : Binding} :
    b ∈ (e.inputOf values).items ↔ b ∈ values.items ∧ e.isSelector b.name = false := by
  rw [inputOf, SortedBy.filter, List.mem_filter, isSelector, Bool.and_eq_false_iff,
    Option.isNone_eq_false_iff]
  simp

/-- Values that differ in selectors only are the same data. -/
theorem inputOf_congr {values values' : Bindings}
    (h : ∀ b, e.isSelector b.name = false → (b ∈ values'.items ↔ b ∈ values.items)) :
    e.inputOf values' = e.inputOf values := by
  apply SortedBy.ext_of_mem
  intro b
  rw [mem_inputOf, mem_inputOf, and_congr_left_iff]
  exact h b

/-- No selector is in the query of a link that is written from the data for the template. -/
theorem isSelector_linkPairs {ambient values : Bindings} {sel : Selection}
    (hselect : e.pattern.select? ambient (e.inputOf values) = some sel) {url : String}
    (hwrite : e.pattern.write? sel.accepted = some url) :
    ∀ pair ∈ linkPairs url, e.isSelector pair.1 = false := by
  rw [RoutePattern.linkPairs_of_write? hwrite, List.forall_mem_map]
  intro b hb
  obtain ⟨hmem, -, hparameter, -⟩ := RoutePattern.mem_extras.1 hb
  obtain ⟨asked, hasked, hname⟩ :=
    RoutePattern.exists_asked_of_select? hselect (Bindings.get?_of_mem hmem) hparameter
  rw [← isSelector_congr hname]
  exact (mem_inputOf.1 hasked).2

end Outbound

/-! ### Links -/

namespace Router

variable {τ ν : Type}

/-- A receiver answers, or breaks down, by what it is handed, whatever else is in the request for
the link. -/
def AnswersByProvided (answer : LinkRequest → LinkReply τ) : Prop :=
  ∀ question question', question.provided? = question'.provided? →
    (answer question).link? = (answer question').link? ∧
      (answer question).isBound = (answer question').isBound ∧
      (answer question).ending = (answer question').ending

/-- What the receiver of a router is handed when the link of an entry is written. -/
def handedOn (r : Router τ ν) (q : LinkRequest) (e : Outbound) : List (Option Bindings) :=
  (r.writeLink (fun _ question => ⟨none, false, .answered, [.asked question]⟩) q e).trace.filterMap
    fun o => o.question?.map (·.provided?)

variable {r : Router τ ν} {q : LinkRequest} {e : Outbound} {values : Bindings}

theorem handedOn_congr (h : e.inputOf values = e.inputOf q.values) :
    r.handedOn { q with values } e = r.handedOn q e := by
  unfold handedOn writeLink
  dsimp only
  rw [h]
  split
  · rfl
  · split
    · rfl
    · rfl

theorem writeLink_congr (h : e.inputOf values = e.inputOf q.values)
    {receive : ν → LinkRequest → LinkReply τ} (hanswers : AnswersByProvided (receive r.next)) :
    (r.writeLink receive { q with values } e).link? = (r.writeLink receive q e).link? ∧
      (r.writeLink receive { q with values } e).ending = (r.writeLink receive q e).ending := by
  unfold writeLink
  dsimp only
  rw [h]
  split
  · exact ⟨rfl, rfl⟩
  next selection _ =>
    split
    · exact ⟨rfl, rfl⟩
    · obtain ⟨hlink, hbound, hending⟩ := hanswers
        { q with values, provided? := some (e.provide selection.accepted) }
        { q with provided? := some (e.provide selection.accepted) } rfl
      rw [hlink, hbound, hending]
      split
      · exact ⟨rfl, rfl⟩
      · split
        · exact ⟨rfl, rfl⟩
        · exact ⟨rfl, rfl⟩

/-- **Selectors do not leak**: if two requests for a link differ in selectors of an entry only, the
entry chooses the same values for both and hands the same on, and its link is the same if the
receiver answers by what it is handed. The link that it writes has no selector in its query, in
whatever spelling. -/
theorem writeLink_of_selectors (r : Router τ ν) (q : LinkRequest) (e : Outbound) {values : Bindings}
    (h : ∀ b, e.isSelector b.name = false → (b ∈ values.items ↔ b ∈ q.values.items)) :
    e.pattern.select? q.ambient (e.inputOf values) =
        e.pattern.select? q.ambient (e.inputOf q.values) ∧
      r.handedOn { q with values } e = r.handedOn q e ∧
      (∀ receive, AnswersByProvided (receive r.next) →
        (r.writeLink receive { q with values } e).link? = (r.writeLink receive q e).link? ∧
        (r.writeLink receive { q with values } e).ending = (r.writeLink receive q e).ending) ∧
      ∀ sel url, e.pattern.select? q.ambient (e.inputOf q.values) = some sel →
        e.pattern.write? sel.accepted = some url →
          ∀ pair ∈ linkPairs url, e.isSelector pair.1 = false := by
  have hinput := Outbound.inputOf_congr h
  refine ⟨by rw [hinput], handedOn_congr hinput, ?_, ?_⟩
  · intro receive hanswers
    exact writeLink_congr hinput hanswers
  · intro sel url hselect hwrite
    exact Outbound.isSelector_linkPairs hselect hwrite

/-- An entry of `{id}` for the page `edit`. -/
def pageEntry : Outbound where
  name? := none
  pattern := .ofTemplate
    { text := "\x7bid\x7d", segments := [[.parameter { name := "id" }]] } .empty
  constraints := .empty
  requirements := [("page", .exact "edit")]
  group? := some "pages"

/-- A router without entries of its own. -/
def bareRouter : Router Unit Unit where
  next := ()
  tries := []
  links := .ofEntries []
  named := .empty
  version := 0

/-- A request for a link to the page `edit`. -/
def pageQuestion : LinkRequest where
  request := { method := "GET", path := "/" }
  ambient := .empty
  values := .ofPairs [("id", "5"), ("page", "edit"), ("sort", "up")]
  name? := none
  provided? := none

/-- A page that is asked for in another spelling is not seen in the link. -/
theorem writeLink_of_selectors_sample :
    (bareRouter.writeLink (fun _ _ => ⟨none, true, .answered, []⟩)
      { pageQuestion with values := .ofPairs [("id", "5"), ("PAGE", "View"), ("sort", "up")] }
      pageEntry).link? = some { url := "/5?sort=up", template? := some "\x7bid\x7d" } := by
  have hvalues : (Bindings.ofPairs [("id", "5"), ("PAGE", "View"), ("sort", "up")]).items =
      [⟨"id", "5"⟩, ⟨"PAGE", "View"⟩, ⟨"sort", "up"⟩] := by decide +kernel
  have hquestion : pageQuestion.values.items = [⟨"id", "5"⟩, ⟨"page", "edit"⟩, ⟨"sort", "up"⟩] := by
    decide +kernel
  have hselectors : pageEntry.isSelector "PAGE" ∧ pageEntry.isSelector "page" := by decide +kernel
  have hagree : ∀ b, pageEntry.isSelector b.name = false →
      (b ∈ (Bindings.ofPairs [("id", "5"), ("PAGE", "View"), ("sort", "up")]).items ↔
        b ∈ pageQuestion.values.items) := by
    intro b hb
    have hne : b ≠ ⟨"PAGE", "View"⟩ ∧ b ≠ ⟨"page", "edit"⟩ := by
      constructor
      · rintro rfl
        exact absurd hselectors.1 (Bool.eq_false_iff.1 hb)
      · rintro rfl
        exact absurd hselectors.2 (Bool.eq_false_iff.1 hb)
    simp [hvalues, hquestion, hne]
  obtain ⟨-, -, hlink, -⟩ := writeLink_of_selectors bareRouter pageQuestion pageEntry hagree
  rw [(hlink (fun _ _ => ⟨none, true, .answered, []⟩) fun _ _ _ => ⟨rfl, rfl, rfl⟩).1]
  decide +kernel

end Router

end UrlRouting
