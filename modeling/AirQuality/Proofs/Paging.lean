import AirQuality.Proofs.Plan.Fetched

/-!
# Listings that come in pages

A listing fetches page after page, each of which says whether it is the last.  What a page says is
all that such a loop goes by: it asks for the pages in order and each once, it goes on exactly after
the pages that say so, and what it lists are the items of all of them, or nothing.
-/

namespace AirQuality

open Outcome

variable {τ β : Type}

/-- The pages of a listing: the request for the page at a place, and what a payload says there, its
items and whether it is the last page. -/
structure Paging (β : Type) where
  request : (place : Nat) → Request
  read : (place : Nat) → Json → Except Failure (List β × Bool)

namespace Paging

variable (paging : Paging β)

/-- Reading so many pages at most from a place on: what is fetched, and what that comes to.  To have
more pages than may be read is told apart from a failure that the listing itself comes to. -/
inductive Reads : (most place : Nat) → List Fetched →
    Except Failure (Except Failure (List β)) → Prop
  | unfinished {place : Nat} : Reads 0 place [] (.error .unfinished)
  | failed {most place : Nat} {failure : Failure} :
    Reads (most + 1) place [⟨paging.request place, .error failure⟩] (.ok (.error failure))
  | unreadable {most place : Nat} {payload : Json} {failure : Failure}
      (hread : paging.read place payload = .error failure) :
    Reads (most + 1) place [⟨paging.request place, .ok payload⟩] (.ok (.error failure))
  | last {most place : Nat} {payload : Json} {items : List β}
      (hread : paging.read place payload = .ok (items, true)) :
    Reads (most + 1) place [⟨paging.request place, .ok payload⟩] (.ok (.ok items))
  | more {most place : Nat} {payload : Json} {items : List β} {rest : List Fetched}
      {outcome : Except Failure (Except Failure (List β))}
      (hread : paging.read place payload = .ok (items, false))
      (hrest : Reads most (place + 1) rest outcome) :
    Reads (most + 1) place (⟨paging.request place, .ok payload⟩ :: rest)
      (outcome.map fun listed => listed.map (items ++ ·))

/-- Work that goes on after the payload of a page: it stops, or has the rest behind its items. -/
def step (rest : Work (List β)) (place : Nat) (payload : Json) : Work (List β) := do
  let (items, isLast) ← Work.lift (paging.read place payload)
  if isLast then pure items else do pure (items ++ (← rest))

/-- A loop that reads the pages of a listing, and does nothing else but write entries. -/
structure Governs (loop : (most place : Nat) → Work (List β)) : Prop where
  zero (place : Nat) : loop 0 place = Work.unfinished
  succ (most place : Nat) : ∃ after : Json → Work (List β),
    loop (most + 1) place =
      Work.fetch (paging.request place).url (paging.request place).parameters >>= after ∧
    ∀ payload,
      (after payload).run.Leads (paging.step (loop most (place + 1)) place payload).run

variable {paging} {fetch : Request → Fetching τ Json} {loop : (most place : Nat) → Work (List β)}

theorem relates_step {rest : Work (List β)} {most place : Nat}
    (hrest : rest.run.Relates fetch (paging.Reads most (place + 1))) (payload : Json) :
    (paging.step rest place payload).run.Relates fetch fun fetched outcome =>
      paging.Reads (most + 1) place (⟨paging.request place, .ok payload⟩ :: fetched) outcome := by
  unfold step
  cases hread : paging.read place payload with
  | error failure => exact Plan.relates_done (.unreadable hread)
  | ok page =>
      obtain ⟨items, isLast⟩ := page
      cases isLast with
      | true => exact Plan.relates_done (.last hread)
      | false =>
          have hmapped := hrest.map (fun listed => listed.map (items ++ ·))
            (ExceptT.bindCont fun more => pure (items ++ more)) fun listed => by
              cases listed with
              | ok more => exact .here _
              | error failure => exact .here _
          intro session
          obtain ⟨outcome, hreads, houtcome⟩ := hmapped session
          exact houtcome ▸ .more hread hreads

/-- A loop over pages reads them. -/
theorem Governs.relates (hgoverns : paging.Governs loop) (most place : Nat) :
    (loop most place).run.Relates fetch (paging.Reads most place) := by
  induction most generalizing place with
  | zero =>
      rw [hgoverns.zero]
      exact Plan.relates_unfinished .unfinished
  | succ most ih =>
      obtain ⟨after, hloop, hafter⟩ := hgoverns.succ most place
      rw [hloop]
      refine Plan.relates_request fun reply => ?_
      cases reply with
      | error failure => exact Plan.relates_done .failed
      | ok payload => exact (relates_step (ih (place + 1)) payload).of_leads (hafter payload)

/-- Work that lists what the pages from the first on hold, within a guard. -/
def IsReadBy (paging : Paging β) (fetch : Request → Fetching τ Json) (most : Nat)
    (work : Work (List β)) : Prop :=
  ∀ session, ∃ outcome, paging.Reads most 0 (work.run.fetched fetch session) outcome ∧
    (work.perform fetch session).1 = outcome >>= degraded []

/-- A loop over pages within a guard, with a note of what it has read. -/
theorem Governs.isReadBy (hgoverns : paging.Governs loop) {topic : Log.Topic} {name : String}
    {report : List β → Work Unit} (hreport : ∀ items, (report items).run.Leads (.done (.ok ())))
    (most : Nat) :
    paging.IsReadBy fetch most (Work.degrade topic name [] do
      let items ← loop most 0
      report items
      pure items) := by
  have hloop := (hgoverns.relates most 0 : (loop most 0).run.Relates fetch _).map id
    (ExceptT.bindCont fun items => report items >>= fun _ => pure items) fun result => by
      cases result with
      | ok items => exact (hreport items).bind _
      | error failure => exact .here _
  intro session
  obtain ⟨_, ⟨outcome, hreads, rfl⟩, hperformed⟩ :=
    Plan.Relates.degrade hloop topic name [] session
  refine ⟨outcome, hreads, ?_⟩
  rw [Work.perform_fst]
  refine (congrArg (· >>= id) hperformed).trans ?_
  cases outcome with
  | ok result => rfl
  | error failure => rfl

/-! ### What is fetched -/

/-- After this page another one is read. -/
def GoesOn (paging : Paging β) (place : Nat) (item : Fetched) : Prop :=
  ∃ payload items, item.reply = .ok payload ∧ paging.read place payload = .ok (items, false)

variable {most place : Nat} {fetched : List Fetched}
  {outcome : Except Failure (Except Failure (List β))}

/-- The pages are asked for in order, each of them once. -/
theorem Reads.map_request (hreads : paging.Reads most place fetched outcome) :
    fetched.map Fetched.request =
      (List.range' place fetched.length).map paging.request := by
  induction hreads with
  | more hread hrest ih => rw [List.map_cons, ih, List.length_cons, List.range'_succ, List.map_cons]
  | _ => rfl

/-- Every page but the last one that is asked for says that there are more. -/
theorem Reads.goesOn (hreads : paging.Reads most place fetched outcome) {number : Nat}
    {item : Fetched} (hitem : fetched[number]? = some item)
    (hbefore : number + 1 < fetched.length) : paging.GoesOn (place + number) item := by
  induction hreads generalizing number with
  | unfinished => cases hitem
  | more hread hrest ih =>
      cases number with
      | zero =>
          obtain rfl := Option.some.inj hitem
          exact ⟨_, _, rfl, hread⟩
      | succ number =>
          have hlater := ih hitem (Nat.lt_of_succ_lt_succ hbefore)
          rwa [Nat.add_right_comm] at hlater
  | _ => simp at hbefore

/-- A listing that comes to no end has read as many pages as it may, all of which say that there are
more. -/
theorem Reads.goesOn_of_error {failure : Failure}
    (hreads : paging.Reads most place fetched (.error failure)) :
    fetched.length = most ∧
      ∀ number item, fetched[number]? = some item → paging.GoesOn (place + number) item := by
  generalize houtcome : (Except.error failure : Except Failure (Except Failure (List β))) = outcome
    at hreads
  induction hreads generalizing failure with
  | unfinished => exact ⟨rfl, fun number item hitem => nomatch hitem⟩
  | @more most place payload items rest result hread hrest ih =>
      cases result with
      | ok listed => cases houtcome
      | error other =>
          obtain ⟨hlength, hgoes⟩ := ih rfl
          refine ⟨congrArg (· + 1) hlength, fun number item hitem => ?_⟩
          cases number with
          | zero =>
              obtain rfl := Option.some.inj hitem
              exact ⟨payload, items, rfl, hread⟩
          | succ number =>
              have hlater := hgoes number item hitem
              rwa [Nat.add_right_comm] at hlater
  | _ => cases houtcome

/-! ### Bounded listings -/

/-- Pages that go on only before a place: no page behind it is asked for. -/
theorem Reads.length_le (hreads : paging.Reads most place fetched outcome) {bound : Nat}
    (hbound : ∀ number item, fetched[number]? = some item →
      paging.GoesOn (place + number) item → place + number + 1 < bound) :
    fetched.length ≤ max 1 (bound - place) := by
  by_contra hmany
  have hplace : fetched.length - 2 < fetched.length := by omega
  have hlast := hbound _ _ (List.getElem?_eq_getElem hplace)
    (hreads.goesOn (List.getElem?_eq_getElem hplace) (by omega))
  omega

/-- With that many pages to read the listing ends. -/
theorem Reads.exists_eq_ok (hreads : paging.Reads most place fetched outcome) {bound : Nat}
    (hbound : ∀ number item, fetched[number]? = some item →
      paging.GoesOn (place + number) item → place + number + 1 < bound)
    (hmost : max 1 (bound - place) ≤ most) : ∃ result, outcome = .ok result := by
  cases outcome with
  | ok result => exact ⟨result, rfl⟩
  | error failure =>
      obtain ⟨hlength, hgoes⟩ := hreads.goesOn_of_error
      have hplace : most - 1 < fetched.length := by omega
      have hlast := hbound _ _ (List.getElem?_eq_getElem hplace)
        (hgoes _ _ (List.getElem?_eq_getElem hplace))
      omega

/-! ### Whole listings -/

/-- A page that is not brought is the last that is asked for, and the listing comes to what it came
to. -/
theorem Reads.of_error (hreads : paging.Reads most place fetched outcome) {item : Fetched}
    (hitem : item ∈ fetched) {failure : Failure} (hfailed : item.reply = .error failure) :
    outcome = .ok (.error failure) := by
  induction hreads with
  | unfinished => cases hitem
  | failed =>
      obtain rfl := List.mem_singleton.mp hitem
      obtain rfl := Except.error.inj hfailed
      rfl
  | unreadable =>
      obtain rfl := List.mem_singleton.mp hitem
      cases hfailed
  | last =>
      obtain rfl := List.mem_singleton.mp hitem
      cases hfailed
  | more hread hrest ih =>
      cases List.mem_cons.mp hitem with
      | inl hfirst =>
          subst hfirst
          cases hfailed
      | inr hlater =>
          rw [ih hlater]
          rfl

/-- Where a page stands in a listing of pages, its payload is read as its items, and only the last
page is read as the last. -/
def Stands (paging : Paging β) (pages : List (List β)) (item : Fetched) : Prop :=
  ∀ number items, item.request = paging.request number → pages[number]? = some items →
    ∀ payload, item.reply = .ok payload →
      paging.read number payload = .ok (items, decide (pages.length ≤ number + 1))

variable {pages : List (List β)}

/-- If every page is brought as it stands, all of them are asked for and all their items listed. -/
theorem Reads.whole (hreads : paging.Reads most place fetched outcome)
    (hstands : ∀ item ∈ fetched, paging.Stands pages item)
    (hbrought : ∀ item ∈ fetched, ∃ payload, item.reply = .ok payload)
    (hplace : place < pages.length) (hmost : pages.length ≤ place + most) :
    outcome = .ok (.ok (pages.drop place).flatten) ∧ place + fetched.length = pages.length := by
  have hpage := List.getElem?_eq_getElem hplace
  induction hreads with
  | unfinished => omega
  | failed =>
      obtain ⟨payload, hpayload⟩ := hbrought _ List.mem_cons_self
      cases hpayload
  | unreadable hread =>
      cases hread.symm.trans (hstands _ List.mem_cons_self _ _ rfl hpage _ rfl)
  | @last most place payload items hread =>
      obtain ⟨rfl, hlast⟩ := Prod.mk.inj (Except.ok.inj
        (hread.symm.trans (hstands _ List.mem_cons_self _ _ rfl hpage _ rfl)))
      have hlength : pages.length ≤ place + 1 := of_decide_eq_true hlast.symm
      rw [List.drop_eq_getElem_cons hplace, List.drop_eq_nil_of_le hlength, List.flatten_cons,
        List.flatten_nil, List.append_nil]
      exact ⟨rfl, Nat.le_antisymm hplace hlength⟩
  | @more most place payload items rest result hread hrest ih =>
      obtain ⟨rfl, hmore⟩ := Prod.mk.inj (Except.ok.inj
        (hread.symm.trans (hstands _ List.mem_cons_self _ _ rfl hpage _ rfl)))
      have hnext : place + 1 < pages.length := Nat.lt_of_not_le (of_decide_eq_false hmore.symm)
      obtain ⟨rfl, hcount⟩ := ih (fun item hitem => hstands item (List.mem_cons_of_mem _ hitem))
        (fun item hitem => hbrought item (List.mem_cons_of_mem _ hitem)) hnext (by omega)
        (List.getElem?_eq_getElem hnext)
      rw [List.drop_eq_getElem_cons hplace, List.flatten_cons]
      exact ⟨rfl, by rw [List.length_cons]; omega⟩

theorem Reads.request_eq (hreads : paging.Reads most place fetched outcome) {number : Nat}
    {item : Fetched} (hitem : fetched[number]? = some item) :
    item.request = paging.request (place + number) := by
  obtain ⟨hnumber, rfl⟩ := List.getElem?_eq_some_iff.mp hitem
  have hrequest := congrArg (·[number]?) hreads.map_request
  simpa [hnumber] using hrequest

/-- No page behind the last one is asked for. -/
theorem Reads.length_le_of_stands (hreads : paging.Reads most 0 fetched outcome)
    (hstands : ∀ item ∈ fetched, paging.Stands pages item) (hpages : pages ≠ []) :
    fetched.length ≤ pages.length := by
  by_contra hmany
  have hcount : 0 < pages.length := List.length_pos_iff.mpr hpages
  have hplace : pages.length - 1 < fetched.length := by omega
  have hitem := List.getElem?_eq_getElem hplace
  obtain ⟨payload, items, hpayload, hread⟩ := hreads.goesOn hitem (by omega)
  rw [Nat.zero_add] at hread
  have hlast := hstands _ (List.getElem_mem hplace) _ _
    ((hreads.request_eq hitem).trans (congrArg _ (Nat.zero_add _)))
    (List.getElem?_eq_getElem (by omega)) payload hpayload
  rw [Nat.sub_add_cancel hcount, decide_eq_true (Nat.le_refl _)] at hlast
  cases hread.symm.trans hlast

end Paging

/-! ### Listings as a whole -/

/-- A listing that is all or nothing.  Its pages are asked for in order, each of them once and no
other; if each of them is brought, the items of all of them are listed, and if one is not, none. -/
structure IsAllOrNothing (request : Nat → Request) (count : Nat) (items : List β)
    (fetched : List Fetched) (outcome : Except Failure (List β)) : Prop where
  inOrder : ∃ asked ≤ count, fetched.map Fetched.request = (List.range asked).map request
  whole : (∀ item ∈ fetched, ∃ payload, item.reply = .ok payload) →
    fetched.length = count ∧ outcome = .ok items
  nothing : ∀ item ∈ fetched, ∀ failure, item.reply = .error failure →
    outcome = if failure.isCancelled then .error failure else .ok []

/-- A listing that ends.  Of its pages the first ones are asked for, in order, each of them once and
no more than a bound; it fails only by being cancelled. -/
structure EndsWithin (request : Nat → Request) (bound : Nat) (fetched : List Fetched)
    (outcome : Except Failure (List β)) : Prop where
  inOrder : fetched.map Fetched.request = (List.range fetched.length).map request
  bounded : fetched.length ≤ bound
  ends : ∀ failure, outcome = .error failure → failure.isCancelled = true

namespace Paging

variable {paging : Paging β} {work : Work (List β)} {most : Nat}

section

variable {fetch : Request → Fetching τ Json}

theorem IsReadBy.endsWithin (hread : paging.IsReadBy fetch most work) (session : Session τ)
    {bound : Nat}
    (hbound : ∀ number item, (work.run.fetched fetch session)[number]? = some item →
      paging.GoesOn number item → number + 1 < bound)
    (hmost : max 1 bound ≤ most) :
    EndsWithin paging.request (max 1 bound) (work.run.fetched fetch session)
      (work.perform fetch session).1 := by
  obtain ⟨outcome, hreads, houtcome⟩ := hread session
  have hplaced : ∀ number item, (work.run.fetched fetch session)[number]? = some item →
      paging.GoesOn (0 + number) item → 0 + number + 1 < bound := by
    simpa only [Nat.zero_add] using hbound
  obtain ⟨result, rfl⟩ := hreads.exists_eq_ok hplaced hmost
  refine ⟨?_, hreads.length_le hplaced, fun failure hfailed => ?_⟩
  · rw [hreads.map_request, List.range_eq_range']
  · rw [houtcome] at hfailed
    exact isCancelled_of_degraded_eq_error hfailed

/-- A page after which no other is read is the last that is asked for. -/
theorem IsReadBy.length_eq (hread : paging.IsReadBy fetch most work) {session : Session τ}
    {number : Nat} {item : Fetched}
    (hitem : (work.run.fetched fetch session)[number]? = some item)
    (hlast : ¬paging.GoesOn number item) :
    (work.run.fetched fetch session).length = number + 1 := by
  obtain ⟨outcome, hreads, -⟩ := hread session
  obtain ⟨hnumber, -⟩ := List.getElem?_eq_some_iff.mp hitem
  by_contra hother
  have hgoes := hreads.goesOn hitem (by omega)
  rw [Nat.zero_add] at hgoes
  exact hlast hgoes

end

variable [Add τ] [Sub τ] [OfNat τ 0] [LT τ] [LE τ] [DecidableLT τ] [DecidableLE τ] [TimeText τ]

/-- A listing whose pages, wherever they are brought, are brought as they stand. -/
theorem IsReadBy.isAllOrNothing {fetcher : Fetcher τ} {remote : Remote τ}
    (hread : paging.IsReadBy (fetcher.fetch remote) most work) {pages : List (List β)}
    (hpages : pages ≠ [])
    (hbrings : ∀ number items, pages[number]? = some items → ∀ payload,
      remote.Brings (paging.request number) payload →
        paging.read number payload = .ok (items, decide (pages.length ≤ number + 1)))
    (hmost : pages.length ≤ most) (session : Session τ) :
    IsAllOrNothing paging.request pages.length pages.flatten
      (work.run.fetched (fetcher.fetch remote) session)
      (work.perform (fetcher.fetch remote) session).1 := by
  obtain ⟨outcome, hreads, houtcome⟩ := hread session
  have hstands : ∀ item ∈ work.run.fetched (fetcher.fetch remote) session,
      paging.Stands pages item := fun item hitem number items hrequest hplace payload hpayload =>
    hbrings number items hplace payload
      (hrequest ▸ Fetcher.brings_of_mem_fetched hitem hpayload)
  refine ⟨⟨_, hreads.length_le_of_stands hstands hpages, ?_⟩, fun hbrought => ?_,
    fun item hitem failure hfailed => ?_⟩
  · rw [hreads.map_request, List.range_eq_range']
  · obtain ⟨rfl, hcount⟩ := hreads.whole hstands hbrought (List.length_pos_iff.mpr hpages)
      (by omega)
    exact ⟨by omega, houtcome⟩
  · rw [houtcome, hreads.of_error hitem hfailed]
    rfl

end Paging

end AirQuality
