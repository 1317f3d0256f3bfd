import PackageRegistry.Proofs.Display.Table
import PackageRegistry.Proofs.Program.Output

/-! # What aborts the program

The one text that the program cannot format is a table with a column of names that is too wide. So
it is aborted where it would print a page with a name of more than 65535 bytes, and nowhere else.
-/

namespace PackageRegistry

open Http (Reply Traffic)

/-- A complete listing in which a name has more bytes than any column can be filled up to. -/
def Http.Reply.Overlong (reply : Reply) : Prop :=
  ∃ status body, reply = .response status body ∧ 200 ≤ status ∧ status ≤ 299 ∧
    ∃ p ∈ (Listing.ofBody body).items, Display.greatestWidth < p.name.utf8ByteSize

namespace Program

theorem aborts_iff {result : Except Failure Listing} :
    aborts result = true ↔ ∃ page, result = .ok page ∧ Display.printed? page = none := by
  cases result with
  | error failure => simp [aborts]
  | ok page => simp [aborts]

/-- A listing aborts the program by the reply that it was read from. -/
theorem aborts_list_iff (c : Client) (f : Filters) (reply : Reply) :
    aborts (c.list f reply).result = true ↔ ∃ e ∈ (c.list f reply).exchanges, e.2.Overlong := by
  rw [aborts_iff]
  constructor
  · rintro ⟨page, hpage, hprinted⟩
    obtain ⟨status, body, harrived, hsuccess, rfl⟩ := Client.list_eq_ok_iff.mp hpage
    obtain ⟨e, he, hreply⟩ := List.mem_map.mp harrived
    obtain ⟨hlow, hhigh⟩ := Http.isSuccess_iff.mp hsuccess
    exact ⟨e, he, status, body, hreply, hlow, hhigh, Display.printed?_eq_none_iff.mp hprinted⟩
  · rintro ⟨e, he, status, body, hreply, hlow, hhigh, hnames⟩
    refine ⟨Listing.ofBody body, Client.list_eq_ok_iff.mpr ⟨status, body, ?_, ?_, rfl⟩, ?_⟩
    · exact List.mem_map.mpr ⟨e, he, hreply⟩
    · exact Http.isSuccess_iff.mpr ⟨hlow, hhigh⟩
    · exact Display.printed?_eq_none_iff.mpr hnames

/-- A page aborts the program if it is printed as a table that cannot be printed. -/
theorem aborted_printPage_iff {f : Filters} {json : Bool} {d : Disk} {page : Listing} :
    (printPage f json d page).aborted = true ↔
      json = false ∧ ∃ p ∈ page.items, Display.greatestWidth < p.name.utf8ByteSize := by
  rw [← Display.printed?_eq_none_iff]
  unfold printPage
  cases json with
  | true => simp
  | false =>
      by_cases hempty : page.items.isEmpty = true
      · have hitems : page.items = [] := by simpa using hempty
        have hprinted : Display.printed? page ≠ none := by
          rw [Ne, Display.printed?_eq_none_iff, hitems]
          simp
        simp [hempty, hprinted]
      · cases hprinted : Display.printed? page <;> simp [hempty]

/-- Any page comes back as the body of a reply. -/
theorem overlong_render {l : Listing} (h : l.Counted)
    (hnames : ∃ p ∈ l.items, Display.greatestWidth < p.name.utf8ByteSize) (f : Filters) :
    (Reply.response 200 (Text.Utf8.encode (l.render f))).Overlong := by
  have hdocument := Json.Reader.document_pretty (Listing.plain_toJson h f)
  refine ⟨200, _, rfl, by decide, by decide, ?_⟩
  rw [Listing.render, Listing.ofBody_of_document h f hdocument]
  exact hnames

theorem counted_longNamed (n : Nat) : (Display.longNamed n).Counted := by
  refine ⟨by simp [Display.longNamed], ?_⟩
  intro p hp
  rw [List.mem_singleton.mp hp]
  exact ⟨by simp, by simp⟩

theorem overlong_longNamed {n : Nat} (h : Display.greatestWidth < n) (f : Filters) :
    (Reply.response 200 (Text.Utf8.encode ((Display.longNamed n).render f))).Overlong :=
  overlong_render (counted_longNamed n)
    (Display.printed?_eq_none_iff.mp (Display.printed?_longNamed h)) f

end Program

end PackageRegistry
