import FeeMarket.Config
import FeeMarket.Estimate
import FeeMarket.Proofs.Json.Codec

/-!
# The data model in JSON

Each record of the data model decodes from what is written for it (`decodes`), and is never nested
deeper than a reader goes (`shallow`): absent values are null, and the fields have distinct names.

**Fee histories** (`FeeHistory.Kept`). The field of the rewards is left out where there are none,
which tells their absence from an empty list of them. A history is got back from its text when the
texts of its ratios are read as these ratios.

Main statement: `data_model_survives_json`.
-/

namespace FeeMarket

open Json

namespace Header

theorem decodes (h : Header) : Decodes decode h.encode h := by
  refine .record (by simp) fun own inOrder hown => ?_
  have hnumber := hown.visit "number" (.word h.number) rfl
  have hhash := hown.visit "hash" (.hash h.hash) rfl
  have hlimit := hown.visit "gasLimit" (.word h.gasLimit) rfl
  have hused := hown.visit "gasUsed" (.word h.gasUsed) rfl
  have hfee := hown.visit "baseFee" (.nullable (by rintro a ⟨⟩) .wei h.baseFee) rfl
  rw [decode, Decode.record]
  simp only [hnumber, hhash, hlimit, hused, hfee]
  rfl

theorem shallow (h : Header) : Shallow 1 h.encode :=
  .object ⟨.word _, .string _, .word _, .word _, .nullable (fun _ => .string _) _⟩

end Header

namespace Transaction

theorem decodes (t : Transaction) : Decodes decode t.encode t := by
  refine .record (by simp) fun own inOrder hown => ?_
  have hhash := hown.visit "hash" (.hash t.hash) rfl
  have hgas := hown.visit "gas" (.word t.gas) rfl
  rw [decode, Decode.record]
  simp only [hhash, hgas]
  rfl

theorem shallow (t : Transaction) : Shallow 1 t.encode := .object ⟨.string _, .word _⟩

end Transaction

namespace Receipt

theorem decodes (p : Receipt) : Decodes decode p.encode p := by
  refine .record (by simp) fun own inOrder hown => ?_
  have hhash := hown.visit "transactionHash" (.hash p.transactionHash) rfl
  have hused := hown.visit "gasUsed" (.word p.gasUsed) rfl
  rw [decode, Decode.record]
  simp only [hhash, hused]
  rfl

theorem shallow (p : Receipt) : Shallow 1 p.encode := .object ⟨.string _, .word _⟩

end Receipt

namespace Block

theorem decodes (b : Block) : Decodes decode b.encode b := by
  refine .record (by simp) fun own inOrder hown => ?_
  have hheader := hown.visit "header" b.header.decodes rfl
  have htransactions := hown.visit "transactions" (.list Transaction.decodes b.transactions) rfl
  rw [decode, Decode.record]
  simp only [hheader, htransactions]
  rfl

theorem shallow (b : Block) : Shallow 3 b.encode :=
  .object ⟨b.header.shallow.mono (by decide), .list fun t _ => t.shallow⟩

end Block

namespace FeesEstimate

theorem decodes (e : FeesEstimate) : Decodes decode e.encode e := by
  refine .record (by simp) fun own inOrder hown => ?_
  have hbase := hown.visit "baseFeePerGas" (.wei e.baseFeePerGas) rfl
  have hfees := hown.visit "percentileFees" (.list .wei e.percentileFees) rfl
  have hblob := hown.visit "baseFeePerBlobGas" (.wei e.baseFeePerBlobGas) rfl
  rw [decode, Decode.record]
  simp only [hbase, hfees, hblob]
  rfl

theorem shallow (e : FeesEstimate) : Shallow 2 e.encode :=
  .object ⟨.mono (.string _) (by decide), .list fun _ _ => .string _,
    .mono (.string _) (by decide)⟩

end FeesEstimate

namespace ChainConfig

theorem decodes (c : ChainConfig) : Decodes decode c.encode c := by
  refine .record (by simp) fun own inOrder hown => ?_
  have hfork := hown.visit "eip1559_block" (.nullable (by rintro a ⟨⟩) .word c.forkBlock) rfl
  have helasticity := hown.visit "elasticity_multiplier" (.word c.elasticity) rfl
  have hdenominator := hown.visit "base_fee_change_denominator" (.word c.denominator) rfl
  rw [decode, Decode.record]
  simp only [hfork, helasticity, hdenominator]
  rfl

theorem shallow (c : ChainConfig) : Shallow 1 c.encode :=
  .object ⟨.nullable .word _, .word _, .word _⟩

end ChainConfig

namespace OracleConfig

theorem decodes (c : OracleConfig) : Decodes decode c.encode c := by
  refine .record (by simp) fun own inOrder hown => ?_
  have hpercentiles := hown.visit "max_percentiles" (.word c.maxPercentiles) rfl
  have hheaders := hown.visit "max_header_history" (.word c.maxHeaderHistory) rfl
  have hblocks := hown.visit "max_block_history" (.word c.maxBlockHistory) rfl
  have hfetchers := hown.visit "max_block_fetchers" (.word c.maxBlockFetchers) rfl
  rw [decode, Decode.record]
  simp only [hpercentiles, hheaders, hblocks, hfetchers]
  rfl

theorem shallow (c : OracleConfig) : Shallow 1 c.encode :=
  .object ⟨.word _, .word _, .word _, .word _⟩

end OracleConfig

namespace FeeHistory

variable (ratio : Float → Json) (h : FeeHistory)

theorem nodup_encodeWith : ((h.encodeWith ratio).map Prod.fst).Nodup := by
  cases hreward : h.reward <;> simp [encodeWith, hreward]

/-- The field of the rewards is there just if the rewards are. -/
theorem lookup_reward :
    (h.encodeWith ratio).lookup "reward" = h.reward.map (Json.list (Json.list Wei.encode)) := by
  cases hreward : h.reward <;> simp [encodeWith, hreward, lookup_cons_eq]

theorem lookup_encodeWith {name : String} (hname : name ≠ "reward") :
    (h.encodeWith ratio).lookup name =
      (encodeWith ratio { h with reward := none }).lookup name := by
  cases hreward : h.reward <;> simp [encodeWith, hreward, lookup_cons_eq, hname]

theorem decodes : Decodes decode h.encode h := by
  refine .record (nodup_encodeWith _ h) fun own inOrder hown => ?_
  have hrows (rows : List (List Wei)) :
      Decodes (Decode.nullable (Decode.list (Decode.list Decode.wei)))
        (.list (.list Wei.encode) rows) (some rows) :=
    .nullable (by rintro a ⟨⟩) (.list (.list .wei)) (some rows)
  have holdest := hown.visit "oldestBlock" (.quantity h.oldestBlock) rfl
  have hreward := hown.visit_optional "reward" hrows (lookup_reward _ h)
  have hbaseFees := hown.visit "baseFeePerGas" (.list .wei h.baseFeePerGas)
    (lookup_encodeWith _ h (by decide))
  have hratios := hown.visit "gasUsedRatio" (.list .double h.gasUsedRatio)
    (lookup_encodeWith _ h (by decide))
  have hblobFees := hown.visit "baseFeePerBlobGas" (.list .wei h.baseFeePerBlobGas)
    (lookup_encodeWith _ h (by decide))
  have hblobRatios := hown.visit "blobGasUsedRatio" (.list .double h.blobGasUsedRatio)
    (lookup_encodeWith _ h (by decide))
  have hgetD : (h.reward.map some).getD none = h.reward := by cases h.reward <;> rfl
  rw [decode, Decode.record]
  simp only [holdest, hreward, hbaseFees, hratios, hblobFees, hblobRatios]
  show Except.ok { h with reward := (h.reward.map some).getD none } = _
  rw [hgetD]

theorem shallow
    (hratios : ∀ f ∈ h.gasUsedRatio ++ h.blobGasUsedRatio, (Number.double f).ReadsBack) :
    Shallow 3 h.encode := by
  have hfees (fees : List Wei) : Shallow 1 (.list Wei.encode fees) := .list fun _ _ => .string _
  have hshares (shares : List Float) (hback : ∀ f ∈ shares, (Number.double f).ReadsBack) :
      Shallow 1 (.list (fun f => .number (.double f)) shares) :=
    .list fun f hf _ _ => .number (hback f hf)
  have hgas := hshares h.gasUsedRatio fun f hf => hratios f (List.mem_append_left _ hf)
  have hblob := hshares h.blobGasUsedRatio fun f hf => hratios f (List.mem_append_right _ hf)
  have holdest := Shallow.string (Word.toHex h.oldestBlock)
  have h0 : 0 ≤ 2 := by decide
  have h1 : 1 ≤ 2 := by decide
  rw [encode, encodeWith]
  cases h.reward with
  | none =>
    exact .object ⟨holdest.mono h0, (hfees _).mono h1, hgas.mono h1, (hfees _).mono h1,
      hblob.mono h1⟩
  | some rows =>
    exact .object ⟨holdest.mono h0, .list fun fees _ => hfees fees, (hfees _).mono h1,
      hgas.mono h1, (hfees _).mono h1, hblob.mono h1⟩

/-- The texts without rewards and with an empty list of them differ, whatever the ratios. -/
theorem compact_reward_ne :
    compact (encode { h with reward := none }) ≠
      compact (encode { h with reward := some [] }) := by
  intro heq
  have hlist := congrArg String.toList heq
  rw [toList_compact 0, toList_compact 0] at hlist
  simp [encode, encodeWith, Layout.text, Layout.fieldTexts, Layout.enclose, Layout.tight, quote,
    escape] at hlist

end FeeHistory

namespace FeeHistory

/-- What JSON keeps of a history. -/
structure Kept (h : FeeHistory) : Prop where
  /-- The history is got back from its JSON value. -/
  value : decode h.encode = .ok h
  /-- The field of the rewards is there just if the rewards are. -/
  reward : h.encode.field? "reward" = h.reward.map (Json.list (Json.list Wei.encode))
  /-- The texts without rewards and with an empty list of them differ. -/
  toldApart :
    compact (encode { h with reward := none }) ≠ compact (encode { h with reward := some [] })
  /-- The history is got back from its text, in both layouts. -/
  text : (∀ f ∈ h.gasUsedRatio ++ h.blobGasUsedRatio, (Number.double f).ReadsBack) →
    readAs decode (compact h.encode) = some h ∧ readAs decode (indented h.encode) = some h

theorem kept (h : FeeHistory) : h.Kept where
  value := h.decodes false
  reward := lookup_reward _ h
  toldApart := h.compact_reward_ne
  text hratios := by
    have hshallow := (h.shallow hratios).mono (by decide : 3 ≤ Reader.maxDepth)
    exact ⟨readAs_compact h.decodes hshallow, readAs_indented h.decodes hshallow⟩

end FeeHistory

/-- **The data model survives JSON.** Every header, transaction, receipt, block, estimate and set of
parameters is got back from what is written for it, and what was decoded once keeps its value and
its text from then on; so does every word that is written as a quantity. A fee history keeps whether
it has rewards. -/
theorem data_model_survives_json :
    Lossless Header.encode Header.decode ∧
    Lossless Transaction.encode Transaction.decode ∧
    Lossless Receipt.encode Receipt.decode ∧
    Lossless Block.encode Block.decode ∧
    Lossless FeesEstimate.encode FeesEstimate.decode ∧
    Lossless ChainConfig.encode ChainConfig.decode ∧
    Lossless OracleConfig.encode OracleConfig.decode ∧
    Lossless (fun n => .string (Word.toHex n)) Decode.quantity ∧
    ∀ h : FeeHistory, h.Kept := by
  refine ⟨?_, ?_, ?_, ?_, ?_, ?_, ?_, ?_, FeeHistory.kept⟩
  · exact .of_decodes Header.decodes Header.shallow (by decide)
  · exact .of_decodes Transaction.decodes Transaction.shallow (by decide)
  · exact .of_decodes Receipt.decodes Receipt.shallow (by decide)
  · exact .of_decodes Block.decodes Block.shallow (by decide)
  · exact .of_decodes FeesEstimate.decodes FeesEstimate.shallow (by decide)
  · exact .of_decodes ChainConfig.decodes ChainConfig.shallow (by decide)
  · exact .of_decodes OracleConfig.decodes OracleConfig.shallow (by decide)
  · exact .of_decodes .quantity (fun _ => .string _) (by decide)

/-- A history of one block that is half full, asked for with a list of percentiles that gave no
row. -/
def halfFull : FeeHistory where
  oldestBlock := 7
  reward := some []
  baseFeePerGas := [1000000000, 1000000000].map Wei.saturate
  gasUsedRatio := [0.5]
  baseFeePerBlobGas := [1, 1]
  blobGasUsedRatio := [0]

theorem halfFull_reads_back :
    ∀ f ∈ halfFull.gasUsedRatio ++ halfFull.blobGasUsedRatio, (Number.double f).ReadsBack := by
  intro f hf
  obtain rfl | rfl : f = 0.5 ∨ f = 0 := by simpa [halfFull] using hf
  · have htext : (numberText (.double 0.5)).toList = ['0', '.', '5'] := by decide +kernel
    rw [Number.ReadsBack, htext]
    exact Reader.readNumber_eq_ok.2
      ⟨['0'], ['.', '5'], some ['5'], [], none, rfl, rfl, rfl, by decide +kernel⟩
  · have htext : (numberText (.double 0)).toList = ['0', '.', '0'] := by decide +kernel
    rw [Number.ReadsBack, htext]
    exact Reader.readNumber_eq_ok.2
      ⟨['0'], ['.', '0'], some ['0'], [], none, rfl, rfl, rfl, by decide +kernel⟩

theorem half_full_history_survives_json :
    (∀ f ∈ halfFull.gasUsedRatio ++ halfFull.blobGasUsedRatio, (Number.double f).ReadsBack) ∧
      readAs FeeHistory.decode (compact halfFull.encode) = some halfFull := by
  obtain ⟨-, -, -, -, -, -, -, -, hkept⟩ := data_model_survives_json
  exact ⟨halfFull_reads_back, ((hkept halfFull).text halfFull_reads_back).1⟩

end FeeMarket
