/-
The sizes and limits of the player.
-/
import Exolon.CoreGraphics

namespace Exolon

structure CGSize where
  width : Rat
  height : Rat

namespace GameConstants

def logicalSize : CGSize := ⟨512, 384⟩

def defaultGroundY : Rat := 96

def defaultSpawnCenter : CGPoint := ⟨88, 128⟩

def playerSpriteSize : CGSize := ⟨48, 64⟩

def playerStandingMovementSize : CGSize := ⟨46, 63⟩

def playerCrouchingMovementSize : CGSize := ⟨46, 52⟩

/-- The limits of the sprite's centre. -/
def playerMinimumCenterX : Rat := playerSpriteSize.width * (1 / 2)

def playerMaximumCenterX : Rat := logicalSize.width + 32

def footSupportHorizontalInset : Rat := 3

end GameConstants

end Exolon
