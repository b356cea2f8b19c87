import BroadView.Bst.Encoder.Text
import BroadView.Json.Writer

namespace BroadView.Bst

open Printf Buffer Json

section Rows

def argJson : Arg → Json
  | .int value => .number (showInt value)
  | .str value => .string value
  | .u64 value => .number (showNat value.toNat)

-- A string stands between quotes in every template.
def argText : Arg → List Char
  | .str value => '"' :: value ++ ['"']
  | arg => arg.text

def PlainArg : Arg → Prop
  | .str value => Plain value
  | _ => True

theorem writes_arg {arg : Arg} (h : PlainArg arg) :
    Writes (.value (argJson arg)) (argText arg) := by
  cases arg with
  | int value => exact writes_number (isNumber_showInt value)
  | str value => exact writes_string h
  | u64 value => exact writes_number (isNumber_showNat value.toNat)

def cellText (margins : Nat × Nat) (arg : Arg) : List Char :=
  List.replicate margins.1 ' ' ++ argText arg ++ List.replicate margins.2 ' '

def rowText (margins : List (Nat × Nat)) (args : List Arg) : List Char :=
  " [".toList ++ List.intercalate [','] (List.zipWith cellText margins args) ++ "] ".toList

-- The blanks that the row template of a realm has around each column.
def BVIEW_BST_REALM_ID.margins : BVIEW_BST_REALM_ID → List (Nat × Nat)
  | .INGRESS_PORT_PG | .EGRESS_UC_QUEUE => [(2, 1), (1, 1), (1, 1)]
  | .EGRESS_CPU_QUEUE | .EGRESS_RQE_QUEUE => [(2, 1), (1, 0), (1, 1)]
  | .EGRESS_MC_QUEUE => [(2, 1), (1, 1), (2, 0), (1, 1)]
  | .EGRESS_SP => [(2, 1), (1, 1), (1, 0), (1, 1)]
  | .EGRESS_PORT_SP => [(2, 1), (1, 1), (1, 1), (1, 1)]
  | _ => [(2, 1), (1, 1)]

theorem row_piece_eq {realm : BVIEW_BST_REALM_ID} {encoder : RealmEncoder}
    (hencoder : realm.encoder = some encoder) (input : ReportInput) (port index : Nat) :
    row_piece encoder ⟨port, index, row_args encoder input port index⟩ =
      rowText realm.margins
        (printed encoder.dataTemplate.toList (row_args encoder input port index)) ++ [','] := by
  cases realm <;> cases hencoder <;>
    simp [row_piece, row_args, row_values, epspEncoder, espEncoder, ucqEncoder, ucqgEncoder,
      mcqEncoder, cpuqEncoder, rqeqEncoder, ippgEncoder, ipspEncoder, ispEncoder, format, printed,
      directives, rowText, BVIEW_BST_REALM_ID.margins, cellText, argText, Arg.text,
      List.intercalate, List.replicate]

theorem margins_length {realm : BVIEW_BST_REALM_ID} {encoder : RealmEncoder}
    (hencoder : realm.encoder = some encoder) (input : ReportInput) (port index : Nat) :
    realm.margins.length =
      (printed encoder.dataTemplate.toList (row_args encoder input port index)).length := by
  cases realm <;> cases hencoder <;> rfl

theorem row_args_plain (encoder : RealmEncoder) (input : ReportInput) (port index : Nat) :
    ∀ arg ∈ row_args encoder input port index, PlainArg arg := by
  intro arg hmem
  simp only [row_args, List.cons_append, List.mem_cons, List.mem_append, List.mem_map] at hmem
  rcases hmem with rfl | ⟨queuePort, -, rfl⟩ | ⟨value, -, rfl⟩
  · trivial
  · exact plain_showInt _
  · trivial

theorem writes_cells (margins : List (Nat × Nat)) (args : List Arg)
    (hlength : margins.length = args.length) (hplain : ∀ arg ∈ args, PlainArg arg) :
    List.Forall₂ (fun json text => Writes (.element json) text) (args.map argJson)
      (List.zipWith cellText margins args) := by
  induction args generalizing margins with
  | nil =>
      rw [List.zipWith_nil_right]
      exact .nil
  | cons arg args ih =>
      cases margins with
      | nil => cases hlength
      | cons margin margins =>
          have hcell := (writes_arg (hplain arg List.mem_cons_self)).element
            (blanks_spaces margin.1) (blanks_spaces margin.2)
          refine .cons hcell (ih margins (Nat.succ.inj hlength) fun arg' hmem => ?_)
          exact hplain arg' (List.mem_cons_of_mem arg hmem)

def rowJson (args : List Arg) : Json := .array (args.map argJson)

theorem writes_row (margins : List (Nat × Nat)) (args : List Arg)
    (hlength : margins.length = args.length) (hne : args ≠ [])
    (hplain : ∀ arg ∈ args, PlainArg arg) :
    Writes (.element (rowJson args)) (rowText margins args) := by
  have hcells := writes_elements (writes_cells margins args hlength hplain) (by simpa using hne)
  have hrow := hcells.array.element (blanks_spaces 1) (blanks_spaces 1)
  have htext : rowText margins args = List.replicate 1 ' ' ++
      ('[' :: List.intercalate [','] (List.zipWith cellText margins args) ++ [']']) ++
      List.replicate 1 ' ' := by
    simp [rowText]
  rw [htext]
  exact hrow

end Rows

section Sections

-- A realm or a port is an object with its name and its data.
def titledText (key value : List Char) : List Char :=
  " \x7b \"".toList ++ key ++ "\": \"".toList ++ value ++ "\", \"data\": ".toList

def sectionText (key value : List Char) (texts : List (List Char)) : List Char :=
  titledText key value ++ arrayText texts ++ " \x7d ".toList

def sectionJson (key value : List Char) (items : List Json) : Json :=
  .object [(key, .string value), ("data".toList, .array items)]

theorem writes_section {key value : List Char} {items : List Json} {texts : List (List Char)}
    (hkey : Plain key) (hvalue : Plain value)
    (h : List.Forall₂ (fun json text => Writes (.element json) text) items texts) :
    Writes (.element (sectionJson key value items)) (sectionText key value texts) := by
  have hname := ((writes_string hvalue).element (blanks_spaces 1) (blanks_spaces 0)).member
    (blanks_spaces 1) hkey (blanks_spaces 0)
  have hplain : Plain "data".toList := by decide
  have hdata := ((writes_arrayText h).element (blanks_spaces 1) (blanks_spaces 1)).member
    (blanks_spaces 1) hplain (blanks_spaces 0)
  have hmembers : Writes (.members [(key, .string value), ("data".toList, .array items)])
      (List.intercalate [','] _) := writes_members (.cons hname (.cons hdata .nil)) (by simp)
  have hobject := hmembers.object.element (blanks_spaces 1) (blanks_spaces 1)
  simpa [sectionText, titledText, sectionJson, List.intercalate] using hobject

theorem sectionText_end (key value : List Char) (texts : List (List Char)) :
    ∃ before, sectionText key value texts = before ++ [' '] :=
  ⟨titledText key value ++ arrayText texts ++ " \x7d".toList, by simp [sectionText]⟩

theorem section_appends {key value header : List Char} {blocks : List (List Op)}
    {texts : List (List Char)} (hheader : header = titledText key value ++ "[ ".toList)
    (hblocks : List.Forall₂ Appends blocks (texts.map (· ++ [',']))) :
    Appends (listing header blocks section_end) (sectionText key value texts ++ [',']) := by
  have hne : header ≠ [] := by simp [hheader]
  have happends : Appends (listing header blocks section_end) _ := listing_appends hne hblocks
  have htext : (header ++ (texts.map (· ++ [','])).flatten).dropLast ++ section_end =
      sectionText key value texts ++ [','] := by
    have harray := arrayText_eq (titledText key value) texts
    have hend : section_end = "]".toList ++ " \x7d ,".toList := rfl
    rw [hheader, hend, ← List.append_assoc, ← terminated, harray, sectionText]
    simp
  rwa [htext] at happends

end Sections

section Realms

variable {realm : BVIEW_BST_REALM_ID} {encoder : RealmEncoder} (input : ReportInput)

namespace BVIEW_BST_REALM_ID

variable (realm : BVIEW_BST_REALM_ID) (encoder : RealmEncoder)

def name : BVIEW_BST_REALM_ID → String
  | .DEVICE => "device"
  | .EGRESS_PORT_SP => "egress-port-service-pool"
  | .EGRESS_SP => "egress-service-pool"
  | .EGRESS_UC_QUEUE => "egress-uc-queue"
  | .EGRESS_UC_QUEUEGROUPS => "egress-uc-queue-group"
  | .EGRESS_MC_QUEUE => "egress-mc-queue"
  | .EGRESS_CPU_QUEUE => "egress-cpu-queue"
  | .EGRESS_RQE_QUEUE => "egress-rqe-queue"
  | .INGRESS_PORT_PG => "ingress-port-priority-group"
  | .INGRESS_PORT_SP => "ingress-port-service-pool"
  | .INGRESS_SP => "ingress-service-pool"

def rowsJson (port : Nat) : List Json :=
  (realm_rows encoder input port).map fun row => rowJson (realm.printedArgs row)

def rowsText (port : Nat) : List (List Char) :=
  (realm_rows encoder input port).map fun row => rowText realm.margins (realm.printedArgs row)

def portJson (port : Nat) : Json :=
  sectionJson "port".toList (shown_port port)
    (realm.rowsJson input encoder port)

def portText (port : Nat) : List Char :=
  sectionText "port".toList (shown_port port)
    (realm.rowsText input encoder port)

def sectionJson : Json :=
  BroadView.Bst.sectionJson "realm".toList realm.name.toList
    (if realm.hasPorts then (included_ports encoder input).map (realm.portJson input encoder)
    else realm.rowsJson input encoder 0)

def sectionText : List Char :=
  BroadView.Bst.sectionText "realm".toList realm.name.toList
    (if realm.hasPorts then (included_ports encoder input).map (realm.portText input encoder)
    else realm.rowsText input encoder 0)

end BVIEW_BST_REALM_ID

theorem realm_header_eq (hencoder : realm.encoder = some encoder) :
    realm_header encoder = titledText "realm".toList realm.name.toList ++ "[ ".toList := by
  cases realm <;> cases hencoder <;> decide

theorem port_header_eq (port : Nat) :
    port_header port =
      titledText "port".toList (shown_port port) ++
        "[ ".toList := by
  simp [port_header, titledText, format, Arg.text]

theorem printedArgs_eq (hencoder : realm.encoder = some encoder) (row : Row) :
    realm.printedArgs row = printed encoder.dataTemplate.toList row.args := by
  simp only [BVIEW_BST_REALM_ID.printedArgs, hencoder]

theorem rows_appends (hencoder : realm.encoder = some encoder) (port : Nat) :
    List.Forall₂ Appends (row_ops encoder (realm_rows encoder input port))
      ((realm.rowsText input encoder port).map (· ++ [','])) := by
  rw [row_ops, BVIEW_BST_REALM_ID.rowsText, List.map_map, List.forall₂_map_left_iff,
    List.forall₂_map_right_iff, List.forall₂_same]
  intro row hmem
  obtain ⟨-, -, hrow⟩ := mem_realm_rows.mp hmem
  have hpiece := row_piece_eq hencoder input port row.index
  rw [← hrow] at hpiece
  have hargs : row.args = row_args encoder input port row.index := by rw [hrow]
  rw [Function.comp_apply, printedArgs_eq hencoder, hargs, ← hpiece]
  exact appends_put _

theorem writes_rows (hencoder : realm.encoder = some encoder) (port : Nat) :
    List.Forall₂ (fun json text => Writes (.element json) text)
      (realm.rowsJson input encoder port) (realm.rowsText input encoder port) := by
  rw [BVIEW_BST_REALM_ID.rowsJson, BVIEW_BST_REALM_ID.rowsText, List.forall₂_map_left_iff,
    List.forall₂_map_right_iff, List.forall₂_same]
  intro row hmem
  obtain ⟨-, -, hrow⟩ := mem_realm_rows.mp hmem
  have hargs : row.args = row_args encoder input port row.index := by rw [hrow]
  have hlength := margins_length hencoder input port row.index
  have hplain := row_args_plain encoder input port row.index
  rw [printedArgs_eq hencoder, hargs]
  refine writes_row _ _ hlength ?_ fun arg harg => hplain arg (List.mem_of_mem_take harg)
  intro hnil
  rw [hnil] at hlength
  cases realm <;> cases hlength

theorem realm_appends (hencoder : realm.encoder = some encoder) :
    Appends (realm.ops input) (realm.sectionText input encoder ++ [',']) := by
  have hheader := realm_header_eq hencoder
  simp only [BVIEW_BST_REALM_ID.ops, hencoder, BVIEW_BST_REALM_ID.sectionText]
  split_ifs
  · refine section_appends hheader ?_
    rw [List.map_map, List.forall₂_map_left_iff, List.forall₂_map_right_iff, List.forall₂_same]
    exact fun port _ => section_appends (port_header_eq port) (rows_appends input hencoder port)
  · exact section_appends hheader (rows_appends input hencoder 0)

theorem plain_shown_port (port : Nat) : Plain (shown_port port) := by
  unfold shown_port sbplugin_ovsdb_system_port_translate_to_notation
  exact plain_showInt _

theorem writes_realm (hencoder : realm.encoder = some encoder) :
    Writes (.element (realm.sectionJson input encoder)) (realm.sectionText input encoder) := by
  have hkey : Plain "realm".toList := by decide
  have hname : Plain realm.name.toList := by cases realm <;> decide
  have hport : Plain "port".toList := by decide
  unfold BVIEW_BST_REALM_ID.sectionJson BVIEW_BST_REALM_ID.sectionText
  split_ifs
  · refine writes_section hkey hname ?_
    rw [List.forall₂_map_left_iff, List.forall₂_map_right_iff, List.forall₂_same]
    exact fun port _ =>
      writes_section hport (plain_shown_port port) (writes_rows input hencoder port)
  · exact writes_section hkey hname (writes_rows input hencoder 0)

end Realms

end BroadView.Bst
