import SanbaoProt.Library.Bytes
import SanbaoProt.Library.Memory

/-!
# The configuration file

`local_config_init` of `wsi.cpp` reads a file into a buffer of its own and sets
the configuration from the document in it.  The length of the file and those of
the two lists of bit rates come from outside; each store to one of the three
arrays is recorded with its index.
-/

namespace SanbaoProt

open Library

/-- The bytes of the packed `LocalConfig` and of what lies behind it. -/
abbrev LocalConfig := Mem UInt8

namespace LocalConfig

/-! Where the fields are. -/

def serverip : Nat := 1
def serverport : Nat := 33
def clientip : Nat := 35
def clientport : Nat := 67
def netdevName : Nat := 69
def ttyName : Nat := 101
def baudrate : Nat := 133
def parity : Nat := 137
def bits : Nat := 169
def stopbit : Nat := 173
def jpegCoderFps : Nat := 177
def speedFilterEnable : Nat := 178
def alertTimeFilter : Nat := 179
def recordSpeed : Nat := 180
def recordPeriod : Nat := 181
def useHeart : Nat := 185
def checkHeartPeriod : Nat := 186
def adasBitRate : Nat := 190
def dmsBitRate : Nat := 218

/-- `snprintf(&config[off], size, "%s", s)`. -/
def setString (config : LocalConfig) (off size : Nat) (s : List UInt8) :
    LocalConfig :=
  config.copy off ((s.takeWhile (· != 0)).take (size - 1) ++ [0])

/-- A little-endian field of `width` bytes. -/
def setUint (config : LocalConfig) (off width : Nat) (n : UInt32) :
    LocalConfig :=
  config.copy off (toBE width n.toNat).reverse

def setBool (config : LocalConfig) (off : Nat) (b : Bool) : LocalConfig :=
  config.store off (if b then 1 else 0)

end LocalConfig

inductive BitRates where
  | adas
  | dms
  deriving DecidableEq, Repr

namespace BitRates

def offset : BitRates → Nat
  | adas => LocalConfig.adasBitRate
  | dms => LocalConfig.dmsBitRate

def count : BitRates → Nat
  | adas => 7
  | dms => 6

end BitRates

/-- A store to the text buffer or to a list of bit rates. -/
inductive ConfigStore where
  | text (index : Nat)
  | bitRate (list : BitRates) (index : Nat)
  deriving DecidableEq, Repr

def configBufferSize : Nat := 1024

/-- The index is one of the array's. -/
def ConfigStore.Inside : ConfigStore → Prop
  | text index => index < configBufferSize
  | bitRate list index => index < list.count

/-! ## The document -/

structure ServerConfig where
  ip : List UInt8
  port : UInt32

structure ClientConfig where
  ip : List UInt8
  port : UInt32
  device : List UInt8

structure AlertPara where
  speedFilterEnable : Bool
  jpegFps : UInt32
  recordSpeed : Bool
  recordPeriod : UInt32
  alertTimeFilter : UInt32
  useHeart : Bool
  checkHeartPeriod : UInt32
  adasBitRate : List UInt32
  dmsBitRate : List UInt32

def AlertPara.bitRates (val : AlertPara) : BitRates → List UInt32
  | .adas => val.adasBitRate
  | .dms => val.dmsBitRate

structure TtyConfig where
  ttyName : List UInt8
  baudrate : UInt32
  bits : UInt32
  stopbit : UInt32
  parity : List UInt8

structure ProtDocument where
  server : ServerConfig
  client : ClientConfig
  alertPara : AlertPara
  tty : TtyConfig

namespace LocalConfig

def getServerConfig (val : ServerConfig) (config : LocalConfig) :
    LocalConfig :=
  let config := config.setString serverip 32 val.ip
  config.setUint serverport 2 val.port

def getClientConfig (val : ClientConfig) (config : LocalConfig) :
    LocalConfig :=
  let config := config.setString clientip 32 val.ip
  let config := config.setUint clientport 2 val.port
  config.setString netdevName 32 val.device

def getTtyConfig (val : TtyConfig) (config : LocalConfig) : LocalConfig :=
  let config := config.setString ttyName 32 val.ttyName
  let config := config.setUint baudrate 4 val.baudrate
  let config := config.setUint bits 4 val.bits
  let config := config.setUint stopbit 4 val.stopbit
  config.setString parity 32 val.parity

/-- The loop over a list of bit rates from index `i` on. -/
def bitRateLoop (list : BitRates) :
    Nat → List UInt32 → LocalConfig → List ConfigStore × LocalConfig
  | _, [], config => ([], config)
  | i, rate :: rates, config =>
      let rest := bitRateLoop list (i + 1) rates
        (config.setUint (list.offset + 4 * i) 4 rate)
      (.bitRate list i :: rest.1, rest.2)

def getAlertPara (val : AlertPara) (config : LocalConfig) :
    List ConfigStore × LocalConfig :=
  let config := config.setBool speedFilterEnable val.speedFilterEnable
  let config := config.setUint jpegCoderFps 1 val.jpegFps
  let config := config.setBool recordSpeed val.recordSpeed
  let config := config.setUint recordPeriod 4 val.recordPeriod
  let config := config.setUint alertTimeFilter 1 val.alertTimeFilter
  let config := config.setBool useHeart val.useHeart
  let config := config.setUint checkHeartPeriod 4 val.checkHeartPeriod
  let adas := bitRateLoop .adas 0 val.adasBitRate config
  let dms := bitRateLoop .dms 0 val.dmsBitRate adas.2
  (adas.1 ++ dms.1, dms.2)

end LocalConfig

/-! ## Loading a file -/

/-- A file that could be opened: its size and what `fread` gets of it. -/
structure ConfigFile where
  size : Nat
  data : List UInt8
  le : data.length ≤ size

/-- The string in the buffer after the terminating zero is written. -/
def ConfigFile.text (file : ConfigFile) : List UInt8 :=
  file.data.takeWhile (· != 0)

structure ConfigRun where
  ret : Int
  stores : List ConfigStore
  config : LocalConfig

/-- `parse` is the parser of the library; `none` is a parse error. -/
def parseProtJson (parse : List UInt8 → Option ProtDocument)
    (buffer : List UInt8) (config : LocalConfig) : ConfigRun :=
  match parse buffer with
  | none => ⟨1, [], config⟩
  | some document =>
      let config := config.getServerConfig document.server
      let config := config.getClientConfig document.client
      let alert := config.getAlertPara document.alertPara
      ⟨0, alert.1, alert.2.getTtyConfig document.tty⟩

def localConfigInit (parse : List UInt8 → Option ProtDocument)
    (file : Option ConfigFile) (config : LocalConfig) : ConfigRun :=
  match file with
  | none => ⟨-1, [], config⟩
  | some file =>
      let ret := file.data.length
      let stores := (List.range ret).map .text ++ [.text ret]
      if ret ≠ file.size then ⟨-1, stores, config⟩
      else
        let parsed := parseProtJson parse file.text config
        ⟨if parsed.ret = 0 then 0 else -1, stores ++ parsed.stores,
          parsed.config⟩

/-- The configuration is set from the document. -/
def ConfigFile.Loads (file : ConfigFile)
    (parse : List UInt8 → Option ProtDocument) (document : ProtDocument) :
    Prop :=
  file.data.length = file.size ∧ parse file.text = some document

/-- All stores are inside their arrays, and the loop over a list of bit rates
changes no other field. -/
structure LoadsInside (parse : List UInt8 → Option ProtDocument)
    (file : Option ConfigFile) (config : LocalConfig) : Prop where
  stores : ∀ st ∈ (localConfigInit parse file config).stores, st.Inside
  others : ∀ opened ∈ file, ∀ document, opened.Loads parse document →
    ∀ list before k,
      k < list.offset ∨ list.offset + 4 * list.count ≤ k →
      (LocalConfig.bitRateLoop list 0 (document.alertPara.bitRates list)
        before).2 k = before k

/-! ### The loop over a list -/

namespace LocalConfig

theorem bitRateLoop_stores (list : BitRates) (i : Nat) (rates : List UInt32)
    (config : LocalConfig) :
    (bitRateLoop list i rates config).1 =
      (List.range' i rates.length).map (.bitRate list) := by
  induction rates generalizing i config with
  | nil => rfl
  | cons rate rates ih =>
      rw [bitRateLoop, ih, List.length_cons, List.range'_succ, List.map_cons]

theorem bitRateLoop_inside (list : BitRates) (rates : List UInt32)
    (config : LocalConfig) :
    (∀ st ∈ (bitRateLoop list 0 rates config).1, st.Inside) ↔
      rates.length ≤ list.count := by
  rw [bitRateLoop_stores]
  simp only [List.forall_mem_map, List.mem_range'_1, ConfigStore.Inside]
  constructor
  · intro h
    by_contra hlong
    have hlast := h list.count ⟨Nat.zero_le _, by omega⟩
    omega
  · intro h index hindex
    omega

theorem bitRateLoop_frame (list : BitRates) (i : Nat) (rates : List UInt32)
    (config : LocalConfig) {k : Nat}
    (hk : k < list.offset + 4 * i ∨
      list.offset + 4 * (i + rates.length) ≤ k) :
    (bitRateLoop list i rates config).2 k = config k := by
  induction rates generalizing i config with
  | nil => rfl
  | cons rate rates ih =>
      rw [List.length_cons] at hk
      rw [bitRateLoop, ih _ _ (by omega), setUint]
      rcases hk with hlow | hhigh
      · exact Mem.copy_of_lt _ _ hlow
      · refine Mem.copy_of_ge _ _ ?_
        rw [List.length_reverse, length_toBE]
        omega

/-- Each bit rate is stored, the ones behind the array as well. -/
theorem bitRateLoop_read (list : BitRates) (i : Nat) (rates : List UInt32)
    (config : LocalConfig) (j : Nat) (hj : j < rates.length) :
    Mem.read (bitRateLoop list i rates config).2 (list.offset + 4 * (i + j)) 4 =
      (toBE 4 rates[j].toNat).reverse := by
  induction rates generalizing i j config with
  | nil => cases hj
  | cons rate rates ih =>
      rw [bitRateLoop]
      cases j with
      | zero =>
          have hcopied := config.read_copy (list.offset + 4 * i)
            (toBE 4 rate.toNat).reverse
          rw [List.length_reverse, length_toBE] at hcopied
          refine Eq.trans (Mem.read_congr fun k _ hk => ?_) hcopied
          exact bitRateLoop_frame list (i + 1) rates _ (.inl (by omega))
      | succ j =>
          rw [List.length_cons] at hj
          have hrest := ih (i + 1) (config.setUint (list.offset + 4 * i) 4 rate)
            j (by omega)
          rw [Nat.add_right_comm] at hrest
          exact hrest

theorem getAlertPara_stores (val : AlertPara) (config : LocalConfig) :
    (∀ st ∈ (config.getAlertPara val).1, st.Inside) ↔
      ∀ list, (val.bitRates list).length ≤ list.count := by
  simp only [getAlertPara, List.forall_mem_append, bitRateLoop_inside]
  constructor
  · rintro ⟨hadas, hdms⟩ list
    cases list with
    | adas => exact hadas
    | dms => exact hdms
  · intro h
    exact ⟨h .adas, h .dms⟩

end LocalConfig

/-! ### The whole file -/

/-- The bytes read and the terminating zero. -/
theorem textStores_inside (n : Nat) :
    (∀ st ∈ (List.range n).map ConfigStore.text ++ [.text n], st.Inside) ↔
      n < configBufferSize := by
  constructor
  · intro h
    exact h (.text n) (List.mem_append_right _ List.mem_cons_self)
  · intro hn st hst
    rcases List.mem_append.mp hst with hread | hlast
    · obtain ⟨index, hindex, rfl⟩ := List.mem_map.mp hread
      exact Nat.lt_trans (List.mem_range.mp hindex) hn
    · rw [List.mem_singleton.mp hlast]
      exact hn

theorem parseProtJson_inside (parse : List UInt8 → Option ProtDocument)
    (buffer : List UInt8) (config : LocalConfig) :
    (∀ st ∈ (parseProtJson parse buffer config).stores, st.Inside) ↔
      ∀ document, parse buffer = some document →
        ∀ list, (document.alertPara.bitRates list).length ≤ list.count := by
  unfold parseProtJson
  cases parse buffer with
  | none =>
      constructor
      · intro _ document hnone
        cases hnone
      · exact fun _ st hst => absurd hst List.not_mem_nil
  | some document =>
      simp only [LocalConfig.getAlertPara_stores, Option.some.injEq]
      exact ⟨fun h _ heq => heq ▸ h, fun h => h document rfl⟩

theorem localConfigInit_stores (parse : List UInt8 → Option ProtDocument)
    (file : ConfigFile) (config : LocalConfig) :
    (∀ st ∈ (localConfigInit parse (some file) config).stores, st.Inside) ↔
      file.data.length < configBufferSize ∧
        ∀ document, file.Loads parse document →
          ∀ list, (document.alertPara.bitRates list).length ≤ list.count := by
  unfold localConfigInit ConfigFile.Loads
  by_cases hread : file.data.length = file.size
  · simp only [hread, ne_eq, not_true, if_false, true_and]
    rw [List.forall_mem_append, textStores_inside, parseProtJson_inside]
  · simp only [hread, ne_eq, not_false_iff, if_true, textStores_inside]
    exact ⟨fun h => ⟨h, fun _ hloads => hloads.1.elim⟩, fun h => h.1⟩

/-- A file is loaded inside the arrays exactly when it is shorter than the
buffer and each of its lists has at most as many bit rates as there are. -/
theorem localConfigInit_inside_iff (parse : List UInt8 → Option ProtDocument)
    (file : Option ConfigFile) (config : LocalConfig) :
    LoadsInside parse file config ↔
      ∀ opened ∈ file, opened.data.length < configBufferSize ∧
        ∀ document, opened.Loads parse document →
          ∀ list, (document.alertPara.bitRates list).length ≤ list.count := by
  constructor
  · rintro h opened rfl
    exact (localConfigInit_stores parse opened config).mp h.stores
  · intro h
    constructor
    · cases file with
      | none => exact fun st hst => absurd hst List.not_mem_nil
      | some opened =>
          exact (localConfigInit_stores parse opened config).mpr (h opened rfl)
    · intro opened hopened document hloads list before k hk
      have hcount := (h opened hopened).2 document hloads list
      refine LocalConfig.bitRateLoop_frame list 0 _ before ?_
      omega

/-- A file of 1024 blanks. -/
def blankFile : ConfigFile :=
  ⟨1024, List.replicate 1024 0x20, List.length_replicate.le⟩

/-- The terminating zero is written behind the buffer. -/
theorem localConfigInit_blankFile :
    ¬ LoadsInside (fun _ => none) (some blankFile) (fun _ => 0) := by
  intro h
  have hinside := ((localConfigInit_stores _ blankFile _).mp h.stores).1
  rw [blankFile, List.length_replicate] at hinside
  exact Nat.lt_irrefl 1024 hinside

end SanbaoProt
