import FirmwareUpdate.Proofs.Device.Delivery

/-!
# What stores a piece of an image

A piece is stored only when the device takes a reply, and only if the reply matches the
request that the device waits for.
-/

namespace FirmwareUpdate.Responder

open Wire

variable {σ : Type} (responder : Responder) (device : Device σ) (state : σ)

/-- A call for progress stores no piece of an image. -/
theorem progress_storesNothing :
    (responder.progress device.recorded (state, [])).2.2.2.filter DeviceCall.storesPiece = [] := by
  have asked {exchange : Exchange} {due : Bool} {later : σ × List DeviceCall}
      (asked : exchange.isDue device.recorded ((device.now state).2, []) = (due, later)) :
      later.2 = [] := isDue_record device _ asked
  unfold progress
  split
  · rfl
  · dsimp only
    split
    · unfold giveUp
      split <;> rfl
    · show List.filter _
        (responder.progressPhase device.recorded ((device.now state).2, [])).2.2.2 = []
      unfold progressPhase
      split
      · unfold progressPull
        grind [markSent, Device.recorded_now]
      · unfold progressDownload
        grind [markSent, Device.recorded_now]
      · unfold progressVerify
        grind [Device.recorded_verify, Device.noting, DeviceCall.storesPiece]
      · unfold progressApply
        grind [Device.recorded_apply, Device.noting, DeviceCall.storesPiece]
      all_goals rfl

/-- What a reply means for the image: nothing, or an answer to the outstanding request for
firmware data, which may store a piece where the image ends so far. -/
inductive TakesReply (message : List UInt8) (after : Responder × List DeviceCall) : Prop where
  | aside (counter : after.1.nextIid = responder.nextIid)
      (nothing : after.2.filter DeviceCall.storesPiece = [])
      (apart : after.1.phase = responder.phase ∨ after.1.phase.details? = none)
  | kept (counter : after.1.nextIid = responder.nextIid) (nothing : after.2 = [])
      {offset : Nat} {result : Option TransferResult} {options : UInt32}
      {details : ComponentDetails}
      (ready : after.1.phase = .download offset result .ready options details)
  | stored (counter : after.1.nextIid = responder.nextIid) {offset : Nat} {exchange : Exchange}
      {options : UInt32} {details : ComponentDetails} {response : Response}
      (waiting : responder.phase = .download offset none exchange options details)
      (parsed : Response.parse message = .ok response)
      (answers : exchange.isAnsweredBy response = true)
      (asked : response.cmd = Coded.code Command.requestFirmwareData)
      (success : response.cc.isSuccess = true) (result : TransferResult)
      (called : after.2 = [.firmwareData offset response.data details result])
      (ready : after.1.phase = afterData offset response.data.length result options details)

theorem takePart_takesReply (pull : PackagePull) (passed : Bool) (response : Response)
    (message : List UInt8) :
    TakesReply responder message
      ((responder.takePart device.recorded pull passed response (state, [])).2.1,
        (responder.takePart device.recorded pull passed response (state, [])).2.2.2) := by
  refine .aside ?_ ?_ (.inr ?_)
  all_goals
    unfold takePart restartPull continuePull endPull touch
    grind [Device.recorded_now, Device.recorded_packageData, DevicePhase.details?,
      DeviceCall.storesPiece]

theorem takeReply_takesReply (agent : EndpointId) (message : List UInt8) :
    TakesReply responder message
      ((responder.takeReply device.recorded agent message (state, [])).2.1,
        (responder.takeReply device.recorded agent message (state, [])).2.2.2) := by
  have aside : TakesReply responder message (responder, []) := .aside rfl rfl (.inl rfl)
  unfold takeReply
  split
  · exact aside
  · split
    · exact aside
    · rename_i response parsed
      split
      · unfold takePackageReply
        split
        · split
          · exact takePart_takesReply ..
          · exact aside
        · exact aside
      · rename_i asked
        unfold takeDataReply
        split
        · rename_i waiting
          split
          · rename_i answers
            unfold takeData
            dsimp only
            split
            · exact .kept rfl rfl rfl
            · split
              · rename_i success
                split
                · exact .stored rfl waiting parsed answers (ofCode?_eq_some_iff.mp asked).symm
                    success _ rfl rfl
                · exact .aside rfl rfl (.inl waiting.symm)
              · exact .kept rfl rfl rfl
          · exact aside
        · exact aside
      all_goals exact aside

end FirmwareUpdate.Responder
