import TrafficMeter.Monitor
import TrafficMeter.Proofs.Counter.Grammar

/-! # Readers of one counter file

Listing the interfaces, fetching one of them and choosing one read the same rows. A fetch finds
what the listing shows first under its name, the listing without the loopback interface is the
other one without its entries, and an interface that was chosen can be fetched.
-/

namespace TrafficMeter

/-- What a fetch of the row's interface reads. -/
def Row.snapshot (row : Row) : Snapshot := ⟨row.rxBytes, row.txBytes, Contents.counterWidth⟩

namespace Contents

variable {path interface name : String} {contents : Contents} {earlier later rows : List Row}
  {row : Row} {error : FetchError}

section Listing

@[simp] theorem interfaces_all (path : String) (contents : Contents) :
    contents.interfaces path true = contents.rows path := by
  unfold interfaces
  cases contents.rows path with
  | error error => rfl
  | ok rows => exact congrArg Except.ok (List.filter_eq_self.mpr fun _ _ => rfl)

theorem interfaces_besides_loopback (path : String) (contents : Contents) :
    contents.interfaces path false =
      (contents.interfaces path true).map (List.filter fun row => row.name ≠ "lo") := by
  rw [interfaces_all, interfaces]
  cases contents.rows path with
  | error error => rfl
  | ok rows =>
      refine congrArg Except.ok (List.filter_congr fun row _ => ?_)
      simp [Row.isLoopback, beq_eq_decide]

/-- A listing fails for the file or for one of its lines, not for an interface. -/
theorem rows_ne_notFound (name : String) :
    contents.rows path ≠ .error (.interfaceNotFound name) := by
  unfold Contents.rows
  split
  · next text _ =>
      intro rejected
      obtain ⟨_, line, _, _, _, refused⟩ := Table.readRows_eq_error_iff.mp rejected
      cases refused
  · rintro ⟨⟩

end Listing

section Fetching

theorem fetch_of_rows (held : contents.rows path = .ok rows) :
    contents.fetch path interface false =
      match rows.find? fun row => row.name == interface with
      | some row => .ok row.snapshot
      | none => .error (.interfaceNotFound interface) := by
  rw [fetch, held]
  rfl

/-- Of several entries of one name the first one counts. -/
theorem fetch_of_first (held : contents.rows path = .ok (earlier ++ row :: later))
    (named : row.name = interface) (first : ∀ other ∈ earlier, other.name ≠ interface) :
    contents.fetch path interface false = .ok row.snapshot := by
  have found : (earlier ++ row :: later).find? (fun row => row.name == interface) = some row :=
    List.find?_eq_some_iff_append.mpr
      ⟨by simp [named], earlier, later, rfl, fun other inside => by simp [first other inside]⟩
  rw [fetch_of_rows held, found]

theorem fetch_of_absent (held : contents.rows path = .ok rows)
    (absent : ∀ row ∈ rows, row.name ≠ interface) :
    contents.fetch path interface false = .error (.interfaceNotFound interface) := by
  have none : rows.find? (fun row => row.name == interface) = none :=
    List.find?_eq_none.mpr fun row inside => by simp [absent row inside]
  rw [fetch_of_rows held, none]

theorem fetch_of_listed (held : contents.rows path = .ok rows) (inside : row ∈ rows)
    (named : row.name = interface) :
    ∃ first ∈ rows, first.name = interface ∧
      contents.fetch path interface false = .ok first.snapshot := by
  rw [fetch_of_rows held]
  cases found : rows.find? fun row => row.name == interface with
  | some first =>
      exact ⟨first, List.mem_of_find?_eq_some found, by simpa using List.find?_some found, rfl⟩
  | none => exact absurd named (by simpa using List.find?_eq_none.mp found row inside)

theorem fetch_succeeds_iff :
    (∃ snapshot, contents.fetch path interface false = .ok snapshot) ↔
      ∃ rows, contents.rows path = .ok rows ∧ ∃ row ∈ rows, row.name = interface := by
  constructor
  · rintro ⟨snapshot, fetched⟩
    cases held : contents.rows path with
    | error error => cases fetched.symm.trans (fetch_of_no_rows held interface false)
    | ok rows =>
        refine ⟨rows, rfl, ?_⟩
        by_contra absent
        have missing := fetch_of_absent held fun row inside named => absent ⟨row, inside, named⟩
        cases fetched.symm.trans missing
  · rintro ⟨rows, held, row, inside, named⟩
    obtain ⟨first, _, _, fetched⟩ := fetch_of_listed held inside named
    exact ⟨_, fetched⟩

theorem fetch_notFound_iff :
    contents.fetch path interface false = .error (.interfaceNotFound interface) ↔
      ∃ rows, contents.rows path = .ok rows ∧ ∀ row ∈ rows, row.name ≠ interface := by
  constructor
  · intro missing
    cases held : contents.rows path with
    | error error =>
        have same := Except.error.inj (missing.symm.trans (fetch_of_no_rows held interface false))
        exact absurd (held.trans (congrArg Except.error same.symm)) (rows_ne_notFound interface)
    | ok rows =>
        refine ⟨rows, rfl, fun row inside named => ?_⟩
        obtain ⟨first, _, _, fetched⟩ := fetch_of_listed held inside named
        cases missing.symm.trans fetched
  · rintro ⟨rows, held, absent⟩
    exact fetch_of_absent held absent

/-- An entry that is the only one besides the loopback interface is the first of its name. -/
theorem fetch_of_only (held : contents.rows path = .ok rows)
    (only : (rows.filter fun row => row.name ≠ "lo") = [row]) :
    contents.fetch path row.name false = .ok row.snapshot := by
  have kept : ∀ other, other ∈ rows ∧ other.name ≠ "lo" ↔ other = row := by
    intro other
    have inside : other ∈ (rows.filter fun row => row.name ≠ "lo") ↔ _ := List.mem_filter
    rw [only] at inside
    simpa using inside.symm
  obtain ⟨inside, besides⟩ := (kept row).mpr rfl
  obtain ⟨first, listed, named, fetched⟩ := fetch_of_listed held inside rfl
  obtain rfl := (kept first).mp ⟨listed, named ▸ besides⟩
  exact fetched

end Fetching

end Contents

namespace Choice

variable {path interface : String} {contents : Contents}

theorem decide_eq_ok_iff {available : List String} :
    decide none available = .ok interface ↔ available = [interface] := by
  rcases available with _ | ⟨first, _ | ⟨second, more⟩⟩ <;> simp [decide]

theorem select_eq_ok_iff :
    select none path contents = .ok interface ↔
      ∃ rows row, contents.rows path = .ok rows ∧
        (rows.filter fun row => row.name ≠ "lo") = [row] ∧ row.name = interface := by
  rw [select, Contents.interfaces_besides_loopback, Contents.interfaces_all]
  cases contents.rows path with
  | error error => simp [Except.map]
  | ok rows =>
      have only : (∃ others row, (.ok rows : Except FetchError _) = .ok others ∧
          (others.filter fun row => row.name ≠ "lo") = [row] ∧ row.name = interface) ↔
            (rows.filter fun row => row.name ≠ "lo").map Row.name = [interface] := by
        simp [List.map_eq_singleton_iff]
      rw [only, ← decide_eq_ok_iff]
      simp only [Except.map]
      cases decide none _ <;> simp

end Choice

namespace Contents

/-- The readers of a counter file agree: a fetch succeeds exactly if the full listing has the
name, with the first entry of that name; the listing without the loopback interface is the full
one without its entries; and a name that was chosen can be fetched. -/
theorem readers_agree (path interface : String) (contents : Contents) :
    let listed := contents.interfaces path true
    let fetched := contents.fetch path interface false
    ((∃ snapshot, fetched = .ok snapshot) ↔
        ∃ rows, listed = .ok rows ∧ ∃ row ∈ rows, row.name = interface) ∧
      (∀ earlier row later, listed = .ok (earlier ++ row :: later) → row.name = interface →
        (∀ other ∈ earlier, other.name ≠ interface) → fetched = .ok row.snapshot) ∧
      (fetched = .error (.interfaceNotFound interface) ↔
        ∃ rows, listed = .ok rows ∧ ∀ row ∈ rows, row.name ≠ interface) ∧
      (∀ error, listed = .error error → fetched = .error error) ∧
      contents.interfaces path false = listed.map (List.filter fun row => row.name ≠ "lo") ∧
      (Choice.select none path contents = .ok interface →
        ∃ rows row, listed = .ok rows ∧ (rows.filter fun row => row.name ≠ "lo") = [row] ∧
          row.name = interface ∧ fetched = .ok row.snapshot) := by
  intro listed fetched
  have all : listed = contents.rows path := interfaces_all path contents
  rw [all]
  refine ⟨fetch_succeeds_iff, fun _ _ _ => fetch_of_first, fetch_notFound_iff,
    fun error unread => fetch_of_no_rows unread interface false, ?_, ?_⟩
  · rw [← all]
    exact interfaces_besides_loopback path contents
  · intro chosen
    obtain ⟨rows, row, held, only, rfl⟩ := Choice.select_eq_ok_iff.mp chosen
    exact ⟨rows, row, held, only, rfl, fetch_of_only held only⟩

/-- Two entries of the loopback interface, another one between them. -/
def doubled : String :=
  "h1\nh2\nlo: 1 0 0 0 0 0 0 0 2\neth0: 3 0 0 0 0 0 0 0 4\nlo: 5 0 0 0 0 0 0 0 6\n"

theorem readers_agree_doubled :
    let contents := ofText doubled
    let loopback : Row := ⟨"lo", 1, 2⟩
    let other : Row := ⟨"eth0", 3, 4⟩
    contents.interfaces "net_dev" true = .ok [loopback, other, ⟨"lo", 5, 6⟩] ∧
      contents.fetch "net_dev" "lo" false = .ok loopback.snapshot ∧
      contents.interfaces "net_dev" false = .ok [other] ∧
      Choice.select none "net_dev" contents = .ok "eth0" ∧
      contents.fetch "net_dev" "eth0" false = .ok other.snapshot := by
  intro contents loopback other
  have listed : contents.interfaces "net_dev" true = .ok [loopback, other, ⟨"lo", 5, 6⟩] := by
    rw [interfaces_all, rows_of_text _ (readText_ofText doubled)]
    rfl
  obtain ⟨_, found, _, _, besides, _⟩ := readers_agree "net_dev" "lo" contents
  obtain ⟨_, _, _, _, _, choice⟩ := readers_agree "net_dev" "eth0" contents
  have others : contents.interfaces "net_dev" false = .ok [other] := by
    rw [besides, listed]
    rfl
  have chosen : Choice.select none "net_dev" contents = .ok "eth0" := by
    rw [Choice.select, others]
    rfl
  obtain ⟨rows, row, held, only, _, fetched⟩ := choice chosen
  obtain rfl : _ = rows := Except.ok.inj (listed.symm.trans held)
  obtain rfl : other = row := List.singleton_inj.mp only
  exact ⟨listed, found [] loopback _ listed rfl (by simp), others, chosen, fetched⟩

end Contents

end TrafficMeter
