/-
The errors of the OpenXR interface that the modelled functions return; a function that fails gives one of these,
and one that succeeds its value.
-/

namespace AugmentedInsanity.Oxr

/-- The negative values of `XrResult`. -/
inductive XrError
  | validationFailure
  | runtimeFailure
  | limitReached
  | handleInvalid
  | instanceLost
  | sessionRunning
  | sessionNotRunning
  | sessionNotReady
  | sessionNotStopping
  | sessionLost
  | callOrderInvalid
  | timeInvalid
  | poseInvalid
  | layerInvalid
  | layerLimitExceeded
  | swapchainRectInvalid
  | environmentBlendModeUnsupported
  | pathInvalid
  | pathUnsupported
  | actionsetNotAttached
  | sizeInsufficient
  | actionsetsAlreadyAttached
  deriving DecidableEq

end AugmentedInsanity.Oxr
