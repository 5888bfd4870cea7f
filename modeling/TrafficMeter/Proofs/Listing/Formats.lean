import TrafficMeter.CommandLine.Program
import TrafficMeter.Proofs.Counter.Grammar
import TrafficMeter.Proofs.Listing.Reading

/-! # The two forms of a listing

The program lists the interfaces of one file for people or as JSON. Whatever is wrong with the file,
both runs end alike, and both listings say the same of every interface that there is. Only if there
is none the forms part: the text form then fails, and the JSON form succeeds.
-/

namespace TrafficMeter

section Names

variable {lines : List (List Char)} {cs line : List Char} {rows : List Row} {row : Row}

theorem Row.inline_of_denotes (denotes : Row.Denotes line row) (inline : '\n' ∉ line) :
    '\n' ∉ row.name.toList := by
  obtain ⟨parts, _, _, _, _⟩ := denotes
  generalize row.name.toList = name at parts
  cases parts
  simp_all

theorem Table.inline_of_denote (denote : List.Forall₂ Row.Denotes lines rows)
    (inline : ∀ line ∈ lines, '\n' ∉ line) : ∀ row ∈ rows, '\n' ∉ row.name.toList := by
  induction denote with
  | nil => simp
  | cons denotes _ ih =>
      obtain ⟨first, more⟩ := List.forall_mem_cons.mp inline
      exact List.forall_mem_cons.mpr ⟨Row.inline_of_denotes denotes first, ih more⟩

theorem Table.inline_of_read (held : Table.read cs = .ok rows) :
    ∀ row ∈ rows, '\n' ∉ row.name.toList := by
  apply Table.inline_of_denote (Table.readRows_eq_ok_iff.mp held)
  intro line due
  exact (Text.lined_lines cs).inline line (List.mem_of_mem_drop (List.mem_of_mem_filter due))

/-- A name stands on one line of its file, and so holds no line feed. -/
theorem Contents.inline_of_interfaces {path : String} {contents : Contents} {all : Bool}
    (held : contents.interfaces path all = .ok rows) : ∀ row ∈ rows, '\n' ∉ row.name.toList := by
  unfold Contents.interfaces at held
  cases found : contents.rows path with
  | error error =>
      rw [found] at held
      cases held
  | ok found_rows =>
      rw [found] at held
      cases held
      have inline : ∀ row ∈ found_rows, '\n' ∉ row.name.toList := by
        unfold Contents.rows at found
        split at found
        · exact Table.inline_of_read found
        · cases found
      intro row inside
      exact inline row (List.mem_of_mem_filter inside)

end Names

namespace CommandLine

variable {files : String → Contents} {path : String} {all : Bool} {rows : List Row}
  {error : FetchError} {format : Format} {arguments textArguments jsonArguments : List String}

theorem run_of_error
    (reads : read arguments = .ok (some (.interfaces ⟨all, format, path⟩)))
    (held : (files path).interfaces path all = .error error) :
    run files arguments = failed "" (.of (.fetch error)) := by
  simp only [run, reads, Command.run, listInterfaces, held]

theorem run_of_rows
    (reads : read arguments = .ok (some (.interfaces ⟨all, format, path⟩)))
    (held : (files path).interfaces path all = .ok rows) :
    run files arguments = Listing.result format rows := by
  simp only [run, reads, Command.run, listInterfaces, held]

/-- A listing that fails for its file ends the same way in every form. -/
theorem exitCode_failed (error : FetchError) :
    (failed "" (.of (.fetch error))).exitCode = 5 := rfl

/-- The two forms of a listing end with different exit codes exactly if there is no interface to
list, with 2 for people and with 0 as JSON. For a file that cannot be listed the two runs are the
same. Otherwise both succeed, and what is read from either output are the rows of the file, in the
same order and with the same counts. -/
theorem formats_agree_unless_empty
    (as_text : read textArguments = .ok (some (.interfaces ⟨all, .text, path⟩)))
    (as_json : read jsonArguments = .ok (some (.interfaces ⟨all, .json, path⟩))) :
    let text := run files textArguments
    let json := run files jsonArguments
    let listed := (files path).interfaces path all
    (text.exitCode = json.exitCode ↔ listed ≠ .ok []) ∧
      (∀ error, listed = .error error → text = json ∧ text.exitCode = 5) ∧
      (listed = .ok [] → text.exitCode = 2 ∧ json.exitCode = 0) ∧
      ∀ rows, listed = .ok rows → rows ≠ [] →
        text.exitCode = 0 ∧ json.exitCode = 0 ∧ Listing.readText? text.stdout = some rows ∧
          Json.read? json.stdout.toList = some (.array (rows.map Listing.rowJson)) := by
  intro text json listed
  cases held : listed with
  | error error =>
      have same : text = json := (run_of_error as_text held).trans (run_of_error as_json held).symm
      have code : text.exitCode = 5 := by
        rw [show text = _ from run_of_error as_text held, exitCode_failed]
      simp [same, ← code]
  | ok rows =>
      have text_eq : text = Listing.result .text rows := run_of_rows as_text held
      have json_eq : json = Listing.result .json rows := run_of_rows as_json held
      cases rows with
      | nil => simp [text_eq, json_eq, Listing.result]
      | cons row rows =>
          have shown : Listing.readText? text.stdout = some (row :: rows) := by
            rw [text_eq]
            exact Listing.readText?_join (Contents.inline_of_interfaces held)
          have written : json.stdout.toList = Listing.jsonArray (row :: rows) ++ ['\n'] := by
            simp [json_eq, Listing.result]
          have decoded := Listing.read?_jsonArray (row :: rows)
          rw [← written] at decoded
          have codes : text.exitCode = 0 ∧ json.exitCode = 0 := by
            rw [text_eq, json_eq]
            exact ⟨rfl, rfl⟩
          refine ⟨by simp [codes], nofun, nofun, ?_⟩
          rintro _ ⟨⟩ _
          exact ⟨codes.1, codes.2, shown, decoded⟩

/-- Two interfaces besides the loopback one, one of them with a tab in its name. -/
def severalInterfaces : String :=
  "h1\nh2\nlo: 7 0 0 0 0 0 0 0 7\n a\tb: 999999 0 0 0 0 0 0 0 2\nw: 0 0 0 0 0 0 0 0 1\n"

theorem formats_agree_unless_empty_several :
    let files := fun _ : String => Contents.ofText severalInterfaces
    let text := run files ["interfaces", "--counters", "net_dev"]
    let json := run files ["interfaces", "--format=json", "--counters", "net_dev"]
    let rows : List Row := [⟨"a\tb", 999999, 2⟩, ⟨"w", 0, 1⟩]
    read ["interfaces", "--counters", "net_dev"] =
        .ok (some (.interfaces ⟨false, .text, "net_dev"⟩)) ∧
      read ["interfaces", "--format=json", "--counters", "net_dev"] =
        .ok (some (.interfaces ⟨false, .json, "net_dev"⟩)) ∧
      text.exitCode = json.exitCode ∧ Listing.readText? text.stdout = some rows ∧
      Json.read? json.stdout.toList = some (.array (rows.map Listing.rowJson)) := by
  intro files text json rows
  have as_text : read ["interfaces", "--counters", "net_dev"] =
      .ok (some (.interfaces ⟨false, .text, "net_dev"⟩)) := by rfl
  have as_json : read ["interfaces", "--format=json", "--counters", "net_dev"] =
      .ok (some (.interfaces ⟨false, .json, "net_dev"⟩)) := by rfl
  have table : Table.read severalInterfaces.toList = .ok (⟨"lo", 7, 7⟩ :: rows) := by rfl
  have held := (Contents.rows_of_text "net_dev" (Contents.readText_ofText _)).trans table
  have listed : (files "net_dev").interfaces "net_dev" false = .ok rows := by
    rw [Contents.interfaces, held]
    rfl
  obtain ⟨codes, _, _, agree⟩ := formats_agree_unless_empty as_text as_json
  obtain ⟨_, _, shown, decoded⟩ := agree rows listed (by simp [rows])
  exact ⟨as_text, as_json, codes.mpr (by simp [listed, rows]), shown, decoded⟩

def loopbackAlone : String := "h1\nh2\nlo: 1 0 0 0 0 0 0 0 2\n"

/-- Without its loopback interface a file may have nothing to list. -/
theorem nothing_listed_ends_apart :
    let files := fun _ : String => Contents.ofText loopbackAlone
    let text := run files ["interfaces", "--counters", "net_dev"]
    let json := run files ["interfaces", "--format", "json", "--counters", "net_dev"]
    text = ⟨"", "<no interfaces>\n", 2⟩ ∧ json = ⟨"[]\n", "", 0⟩ ∧
      text.exitCode ≠ json.exitCode := by
  intro files text json
  have table : Table.read loopbackAlone.toList = .ok [⟨"lo", 1, 2⟩] := by rfl
  have held := (Contents.rows_of_text "net_dev" (Contents.readText_ofText _)).trans table
  have listed : (files "net_dev").interfaces "net_dev" false = .ok [] := by
    rw [Contents.interfaces, held]
    rfl
  have as_text : read ["interfaces", "--counters", "net_dev"] =
      .ok (some (.interfaces ⟨false, .text, "net_dev"⟩)) := by rfl
  have as_json : read ["interfaces", "--format", "json", "--counters", "net_dev"] =
      .ok (some (.interfaces ⟨false, .json, "net_dev"⟩)) := by rfl
  have text_eq : text = ⟨"", "<no interfaces>\n", 2⟩ := run_of_rows as_text listed
  have json_eq : json = ⟨"[]\n", "", 0⟩ := run_of_rows as_json listed
  exact ⟨text_eq, json_eq, by simp [text_eq, json_eq]⟩

end CommandLine

end TrafficMeter
