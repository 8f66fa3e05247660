import LeafPatch.Document.Reader
import LeafPatch.Json.Indented
import LeafPatch.Patch.Draft

/-!
# Corpora

Pairs of documents, one stored and one edited, on which comparisons can be
measured: a small node, a node with many properties, and a node with many network cards.
The documents are kept as the texts of their files, which are read each time.
-/

namespace LeafPatch

/-- A named pair of texts of documents. -/
structure Corpus where
  name : String
  before : String
  after : String

/-- The documents of a corpus. -/
structure DocumentPair where
  before : Document
  after : Document

namespace Corpus

/-- The number of octets of both texts. -/
def size (corpus : Corpus) : Nat :=
  corpus.before.utf8ByteSize + corpus.after.utf8ByteSize

/-- Reads both documents. -/
def load (corpus : Corpus) : Except DocumentError DocumentPair := do
  let before ← Document.readJson false corpus.before
  let after ← Document.readJson false corpus.after
  return ⟨before, after⟩

/-! ## Building blocks -/

/-- A natural number of at most 64 bits as JSON. -/
def count (value : Nat) : Json :=
  if bound : value < 18446744073709551616 then
    .number (.integer value (fitsWord_natCast bound))
  else
    .null

/-- A name with a number at its end. -/
def label (stem : String) (index : Nat) : String :=
  stem ++ toString index

/-- A natural number to a base, in at least `width` digits. -/
def digits (base width value : Nat) : String :=
  let shown := Nat.toDigits base value
  String.ofList (List.replicate (width - shown.length) '0' ++ shown)

/-! ## The small node -/

/-- The identifier of the small node. -/
def smallNodeId : String :=
  "1be26c0b-03f2-4d2e-ae87-c02d7f33c123"

/-- The small node; only some of its properties differ. -/
def smallNode
    (name : String)
    (driverInfo : List (String × Json))
    (cpus : Nat)
    (extra : List (String × Json)) :
    Json :=
  .object
    [("uuid", .text smallNodeId),
      ("name", .text name),
      ("driver", .text "ipmi"),
      ("driver_info", .object driverInfo),
      ("properties", .object
        [("cpus", count cpus),
          ("memory_mb", count 16384),
          ("local_gb", count 100),
          ("cpu_arch", .text "x86_64")]),
      ("extra", .object extra),
      ("resource_class", .text "baremetal")]

/-- The corpus of the small node. -/
def small : Corpus where
  name := "node-small"
  before :=
    (smallNode "compute-0"
      [("ipmi_address", .text "10.0.0.5"),
        ("ipmi_username", .text "admin"),
        ("ipmi_port", count 623)]
      8
      []).fileText
  after :=
    (smallNode "compute-0-renamed"
      [("ipmi_address", .text "10.0.0.6"),
        ("ipmi_port", count 623)]
      16
      [("rack", .text "r7"), ("slot", count 12)]).fileText

/-! ## The wide node -/

/-- The node with many properties. -/
def wideNode (driverInfo properties extra : List (String × Json)) : Json :=
  .object
    [("uuid", .text "5f1c2d33-8e7a-4b9f-9d2c-0a1b2c3d4e5f"),
      ("name", .text "storage-wide"),
      ("driver", .text "redfish"),
      ("driver_info", .object driverInfo),
      ("properties", .object properties),
      ("extra", .object extra)]

/-- An option of the wide node's driver. -/
def driverOption (stem : String) (index : Nat) : String × Json :=
  (label "redfish_option_" index, .text (label stem index))

/-- A capability of the wide node. -/
def capability (value index : Nat) : String × Json :=
  (label "capability_" index, count value)

/-- A label of the wide node; tags come round again after seven. -/
def tagLabel (index : Nat) : String × Json :=
  (label "label_" index, .text (label "tag-" (index % 7)))

/--
The corpus of the wide node: every third option has changed, every fifth
capability is gone, twenty are new, and every fourth label is a number.
-/
def wide : Corpus where
  name := "node-wide"
  before :=
    (wideNode
      ((List.range 40).map (driverOption "value-"))
      ((List.range 80).map fun index => capability index index)
      ((List.range 60).map tagLabel)).fileText
  after :=
    (wideNode
      ((List.range 40).map fun index =>
        driverOption (if index % 3 = 0 then "changed-" else "value-") index)
      (((List.range 80).filter (· % 5 != 0)).map
          (fun index => capability index index)
        ++ (List.range' 80 20).map fun index => capability (2 * index) index)
      ((List.range 60).map fun index =>
        if index % 4 = 0 then (label "label_" index, count index)
        else tagLabel index)).fileText

/-! ## The network cards -/

/-- A network card of a node, attached to a virtual interface or not. -/
def card (attached : Bool) (index : Nat) : Json :=
  .object
    [("uuid", .text ("00000000-0000-4000-8000-" ++ digits 10 12 index)),
      ("address", .text ("52:54:00:00:00:" ++ digits 16 2 index)),
      ("local_link_connection", .object
        [("switch_id", .text "0a:1b:2c:3d:4e:5f"),
          ("port_id", .text (label "Eth1/" index)),
          ("switch_info", .text "leaf-1")]),
      ("extra", .object
        (if attached then
          [("vif_port_id", .text (label "vif-" index))]
        else
          []))]

/-- The network cards of a node. -/
def cardList (cards : List Json) : Json :=
  .object [("node_uuid", .text smallNodeId), ("ports", .array cards)]

/--
The corpus of the network cards: first every second one is attached, then every
third one of fewer, and a card has been added that cannot be compared in full.
-/
def cards : Corpus where
  name := "ports"
  before :=
    (cardList
      ((List.range 24).map fun index => card (index % 2 == 0) index)).fileText
  after :=
    (cardList
      ((List.range 20).map (fun index => card (index % 3 == 0) index)
        ++ [.object
          [("address", .text "52:54:00:00:01:00"),
            ("pxe_enabled", .bool true)]])).fileText

/-- All corpora, smallest first. -/
def all : List Corpus :=
  [small, wide, cards]

end Corpus

end LeafPatch
