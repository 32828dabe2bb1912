/-!
# Character names: abugidas

The part of the table of character names from U+0900 to U+16FF: the scripts of South Asia,
Ethiopia and North America.
-/

namespace ClassSchema.Text.CharacterName

/-- The names of the scripts of South Asia, Ethiopia and North America. -/
def abugidas : List String :=
  ["@900aDEVANAGARI SIGN INVERTED CANDRABINDUc~cANUSVARAcVISARGAbLETTER SHORT AcAcAAcIcIIcUcUU",
   "cVOCALIC RdLcCANDRA EcSHORT~cEcAIcCANDRA OcSHORT~cOcAUcKAcKHAcGAcGHAcNGAcCAcCHAcJAcJHAcNYAcTTA",
   "cTTHAcDDAcDDHAcNNAcTAcTHAcDAcDHAcNAcNNNAcPAcPHAcBAcBHAcMAcYAcRAcRRAcLAcLLAcLLLAcVAcSHAcSSAcSA",
   "cHAbVOWEL SIGN OEdOOEbSIGN NUKTAcAVAGRAHAbVOWEL SIGN AAdIdIIdUdUUdVOCALIC ReRRdCANDRA EdSHORT~",
   "dEdAIdCANDRA OdSHORT~dOdAUbSIGN VIRAMAbVOWEL SIGN PRISHTHAMATRA EdAWbOMbSTRESS SIGN UDATTA",
   "dANUDATTAbGRAVE ACCENTbACUTE~bVOWEL SIGN CANDRA LONG EdUEdUUEbLETTER QAcKHHAcGHHAcZAcDDDHAcRHA",
   "cFAcYYAcVOCALIC RRdLLbVOWEL SIGN VOCALIC LeLLbDANDAbDOUBLE~bDIGIT ZEROcONEcTWOcTHREEcFOURcFIVE",
   "cSIXcSEVENcEIGHTcNINEbABBREVIATION SIGNbSIGN HIGH SPACING DOTbLETTER CANDRA AcOEcOOEcAWcUEcUUE",
   "cMARWARI DDAcZHAcHEAVY YAcGGAcJJAcGLOTTAL STOPcDDDAcBBAaBENGALI ANJIbSIGN CANDRABINDUcANUSVARA",
   "cVISARGA@985bLETTER AcAAcIcIIcUcUUcVOCALIC RdL@98FcEcAI@993cOcAUcKAcKHAcGAcGHAcNGAcCAcCHAcJA",
   "cJHAcNYAcTTAcTTHAcDDAcDDHAcNNAcTAcTHAcDAcDHAcNA@9AAcPAcPHAcBAcBHAcMAcYAcRA@9B2cLA@9B6cSHAcSSA",
   "cSAcHA@9BCbSIGN NUKTAcAVAGRAHAbVOWEL SIGN AAdIdIIdUdUUdVOCALIC ReRR@9C7dEdAI@9CBdOdAU",
   "bSIGN VIRAMAbLETTER KHANDA TA@9D7bAU LENGTH MARK@9DCbLETTER RRAcRHA@9DFcYYAcVOCALIC RRdLL",
   "bVOWEL SIGN VOCALIC LeLL@9E6bDIGIT ZEROcONEcTWOcTHREEcFOURcFIVEcSIXcSEVENcEIGHTcNINE",
   "bLETTER RA WITH MIDDLE DIAGONALeLOWER~bRUPEE MARKcSIGNbCURRENCY NUMERATOR ONEdTWOdTHREEdFOUR",
   "dONE LESS THAN THE DENOMINATORcDENOMINATOR SIXTEENbISSHARbGANDA MARKbLETTER VEDIC ANUSVARA",
   "bABBREVIATION SIGNbSANDHI MARK@A01aGURMUKHI SIGN ADAK BINDIc~cVISARGA@A05bLETTER AcAAcIcIIcU",
   "cUU@A0FcEEcAI@A13cOOcAUcKAcKHAcGAcGHAcNGAcCAcCHAcJAcJHAcNYAcTTAcTTHAcDDAcDDHAcNNAcTAcTHAcDA",
   "cDHAcNA@A2AcPAcPHAcBAcBHAcMAcYAcRA@A32cLAcLLA@A35cVAcSHA@A38cSAcHA@A3CbSIGN NUKTA@A3E",
   "bVOWEL SIGN AAdIdIIdUdUU@A47dEEdAI@A4BdOOdAUbSIGN VIRAMA@A51cUDAAT@A59bLETTER KHHAcGHHAcZAcRRA",
   "@A5EcFA@A66bDIGIT ZEROcONEcTWOcTHREEcFOURcFIVEcSIXcSEVENcEIGHTcNINEbTIPPIbADDAKbIRIbURA",
   "bEK ONKARbSIGN YAKASHbABBREVIATION SIGN@A81aGUJARATI SIGN CANDRABINDUcANUSVARAcVISARGA@A85",
   "bLETTER AcAAcIcIIcUcUUcVOCALIC RdLbVOWEL CANDRA E@A8FbLETTER~cAIbVOWEL CANDRA O@A93bLETTER~cAU",
   "cKAcKHAcGAcGHAcNGAcCAcCHAcJAcJHAcNYAcTTAcTTHAcDDAcDDHAcNNAcTAcTHAcDAcDHAcNA@AAAcPAcPHAcBAcBHA",
   "cMAcYAcRA@AB2cLAcLLA@AB5cVAcSHAcSSAcSAcHA@ABCbSIGN NUKTAcAVAGRAHAbVOWEL SIGN AAdIdIIdUdUU",
   "dVOCALIC ReRRdCANDRA E@AC7dEdAIdCANDRA O@ACBdOdAUbSIGN VIRAMA@AD0bOM@AE0bLETTER VOCALIC RRdLL",
   "bVOWEL SIGN VOCALIC LeLL@AE6bDIGIT ZEROcONEcTWOcTHREEcFOURcFIVEcSIXcSEVENcEIGHTcNINE",
   "bABBREVIATION SIGNbRUPEE~@AF9bLETTER ZHAbSIGN SUKUNcSHADDAcMADDAHcTHREE-DOT NUKTA ABOVE",
   "cCIRCLE~~cTWO-CIRCLE~~@B01aORIYA SIGN CANDRABINDUcANUSVARAcVISARGA@B05bLETTER AcAAcIcIIcUcUU",
   "cVOCALIC RdL@B0FcEcAI@B13cOcAUcKAcKHAcGAcGHAcNGAcCAcCHAcJAcJHAcNYAcTTAcTTHAcDDAcDDHAcNNAcTA",
   "cTHAcDAcDHAcNA@B2AcPAcPHAcBAcBHAcMAcYAcRA@B32cLAcLLA@B35cVAcSHAcSSAcSAcHA@B3CbSIGN NUKTA",
   "cAVAGRAHAbVOWEL SIGN AAdIdIIdUdUUdVOCALIC ReRR@B47dEdAI@B4BdOdAUbSIGN VIRAMA@B55cOVERLINE",
   "bAI LENGTH MARKbAU~~@B5CbLETTER RRAcRHA@B5FcYYAcVOCALIC RRdLLbVOWEL SIGN VOCALIC LeLL@B66",
   "bDIGIT ZEROcONEcTWOcTHREEcFOURcFIVEcSIXcSEVENcEIGHTcNINEbISSHARbLETTER WAbFRACTION ONE QUARTER",
   "dHALFcTHREE QUARTERScONE SIXTEENTHdEIGHTHcTHREE SIXTEENTHS@B82aTAMIL SIGN ANUSVARAcVISARGA@B85",
   "bLETTER AcAAcIcIIcUcUU@B8EcEcEEcAI@B92cOcOOcAUcKA@B99cNGAcCA@B9CcJA@B9EcNYAcTTA@BA3cNNAcTA@BA8",
   "cNAcNNNAcPA@BAEcMAcYAcRAcRRAcLAcLLAcLLLAcVAcSHAcSSAcSAcHA@BBEbVOWEL SIGN AAdIdIIdUdUU@BC6dEdEE",
   "dAI@BCAdOdOOdAUbSIGN VIRAMA@BD0bOM@BD7bAU LENGTH MARK@BE6bDIGIT ZEROcONEcTWOcTHREEcFOURcFIVE",
   "cSIXcSEVENcEIGHTcNINEbNUMBER TENcONE HUNDREDdTHOUSANDbDAY SIGNbMONTH~bYEAR~bDEBIT~bCREDIT~",
   "bAS ABOVE~bRUPEE~bNUMBER~@C00aTELUGU SIGN COMBINING CANDRABINDU ABOVEcCANDRABINDUcANUSVARA",
   "cVISARGAcCOMBINING ANUSVARA ABOVEbLETTER AcAAcIcIIcUcUUcVOCALIC RdL@C0EcEcEEcAI@C12cOcOOcAUcKA",
   "cKHAcGAcGHAcNGAcCAcCHAcJAcJHAcNYAcTTAcTTHAcDDAcDDHAcNNAcTAcTHAcDAcDHAcNA@C2AcPAcPHAcBAcBHAcMA",
   "cYAcRAcRRAcLAcLLAcLLLAcVAcSHAcSSAcSAcHA@C3CbSIGN NUKTAcAVAGRAHAbVOWEL SIGN AAdIdIIdUdUU",
   "dVOCALIC ReRR@C46dEdEEdAI@C4AdOdOOdAUbSIGN VIRAMA@C55bLENGTH MARKbAI~~@C58bLETTER TSAcDZAcRRRA",
   "@C5DcNAKAARA POLLU@C60cVOCALIC RRdLLbVOWEL SIGN VOCALIC LeLL@C66bDIGIT ZEROcONEcTWOcTHREEcFOUR",
   "cFIVEcSIXcSEVENcEIGHTcNINE@C77bSIGN SIDDHAMbFRACTION DIGIT ZERO FOR ODD POWERS OF FOUR",
   "dONE~~~~~dTWO~~~~~dTHREE~~~~~dONE FOR EVEN~~~dTWO~~~~~dTHREE~~~~~bSIGN TUUMU",
   "aKANNADA SIGN SPACING CANDRABINDUc~cANUSVARAcVISARGAcSIDDHAMbLETTER AcAAcIcIIcUcUUcVOCALIC RdL",
   "@C8EcEcEEcAI@C92cOcOOcAUcKAcKHAcGAcGHAcNGAcCAcCHAcJAcJHAcNYAcTTAcTTHAcDDAcDDHAcNNAcTAcTHAcDA",
   "cDHAcNA@CAAcPAcPHAcBAcBHAcMAcYAcRAcRRAcLAcLLA@CB5cVAcSHAcSSAcSAcHA@CBCbSIGN NUKTAcAVAGRAHA",
   "bVOWEL SIGN AAdIdIIdUdUUdVOCALIC ReRR@CC6dEdEEdAI@CCAdOdOOdAUbSIGN VIRAMA@CD5bLENGTH MARKbAI~~",
   "@CDDbLETTER NAKAARA POLLUcFA@CE0cVOCALIC RRdLLbVOWEL SIGN VOCALIC LeLL@CE6bDIGIT ZEROcONEcTWO",
   "cTHREEcFOURcFIVEcSIXcSEVENcEIGHTcNINE@CF1bSIGN JIHVAMULIYAcUPADHMANIYA",
   "cCOMBINING ANUSVARA ABOVE RIGHT@D00aMALAYALAM SIGN COMBINING ANUSVARA ABOVEcCANDRABINDU",
   "cANUSVARAcVISARGAbLETTER VEDIC ANUSVARAcAcAAcIcIIcUcUUcVOCALIC RdL@D0EcEcEEcAI@D12cOcOOcAUcKA",
   "cKHAcGAcGHAcNGAcCAcCHAcJAcJHAcNYAcTTAcTTHAcDDAcDDHAcNNAcTAcTHAcDAcDHAcNAcNNNAcPAcPHAcBAcBHAcMA",
   "cYAcRAcRRAcLAcLLAcLLLAcVAcSHAcSSAcSAcHAcTTTAbSIGN VERTICAL BAR VIRAMAcCIRCULAR~cAVAGRAHA",
   "bVOWEL SIGN AAdIdIIdUdUUdVOCALIC ReRR@D46dEdEEdAI@D4AdOdOOdAUbSIGN VIRAMAbLETTER DOT REPH",
   "bSIGN PARA@D54bLETTER CHILLU MdYdLLLbAU LENGTH MARKbFRACTION ONE ONE-HUNDRED-AND-SIXTIETH",
   "dFORTIETHcTHREE EIGHTIETHScONE TWENTIETHdTENTHcTHREE TWENTIETHScONE FIFTHbLETTER ARCHAIC II",
   "cVOCALIC RRdLLbVOWEL SIGN VOCALIC LeLL@D66bDIGIT ZEROcONEcTWOcTHREEcFOURcFIVEcSIXcSEVENcEIGHT",
   "cNINEbNUMBER TENcONE HUNDREDdTHOUSANDbFRACTION ONE QUARTERdHALFcTHREE QUARTERScONE SIXTEENTH",
   "dEIGHTHcTHREE SIXTEENTHSbDATE MARKbLETTER CHILLU NNdNdRRdLdLLdK@D81aSINHALA SIGN CANDRABINDU",
   "cANUSVARAYAcVISARGAYA@D85bLETTER AYANNAcAAYANNAcAEYANNAcAEEYANNAcIYANNAcIIYANNAcUYANNAcUUYANNA",
   "cIRUYANNAcIRUUYANNAcILUYANNAcILUUYANNAcEYANNAcEEYANNAcAIYANNAcOYANNAcOOYANNAcAUYANNA@D9A",
   "cALPAPRAANA KAYANNAcMAHAAPRAANA~cALPAPRAANA GAYANNAcMAHAAPRAANA~cKANTAJA NAASIKYAYA",
   "cSANYAKA GAYANNAcALPAPRAANA CAYANNAcMAHAAPRAANA~cALPAPRAANA JAYANNAcMAHAAPRAANA~",
   "cTAALUJA NAASIKYAYAdSANYOOGA NAAKSIKYAYAcSANYAKA JAYANNAcALPAPRAANA TTAYANNAcMAHAAPRAANA~",
   "cALPAPRAANA DDAYANNAcMAHAAPRAANA~cMUURDHAJA NAYANNAcSANYAKA DDAYANNAcALPAPRAANA TAYANNA",
   "cMAHAAPRAANA~cALPAPRAANA DAYANNAcMAHAAPRAANA~cDANTAJA NAYANNA@DB3cSANYAKA DAYANNA",
   "cALPAPRAANA PAYANNAcMAHAAPRAANA~cALPAPRAANA BAYANNAcMAHAAPRAANA~cMAYANNAcAMBA BAYANNAcYAYANNA",
   "cRAYANNA@DBDcDANTAJA LAYANNA@DC0cVAYANNAcTAALUJA SAYANNAcMUURDHAJA~cDANTAJA~cHAYANNA",
   "cMUURDHAJA LAYANNAcFAYANNA@DCAbSIGN AL-LAKUNA@DCFbVOWEL SIGN AELA-PILLAdKETTI AEDA-PILLAdDIGA~",
   "dKETTI IS-PILLAdDIGA~dKETTI PAA-PILLA@DD6dDIGA~@DD8dGAETTA-PILLAdKOMBUVAdDIGA~dKOMBU DEKA",
   "dKOMBUVA HAA AELA-PILLAfDIGA~fGAYANUKITTAd~@DE6bLITH DIGIT ZEROdONEdTWOdTHREEdFOURdFIVEdSIX",
   "dSEVENdEIGHTdNINE@DF2bVOWEL SIGN DIGA GAETTA-PILLAeGAYANUKITTAbPUNCTUATION KUNDDALIYA@E01",
   "aTHAI CHARACTER KO KAIcKHO KHAIdKHUATdKHWAIdKHONdRAKHANGcNGO NGUcCHO CHANdCHINGdCHANGcSO SO",
   "cCHO CHOEcYO YINGcDO CHADAcTO PATAKcTHO THANdNANGMONTHOdPHUTHAOcNO NENcDO DEKcTO TAOcTHO THUNG",
   "dTHAHANdTHONGcNO NUcBO BAIMAIcPO PLAcPHO PHUNGcFO FAcPHO PHANcFO FANcPHO SAMPHAOcMO MAcYO YAK",
   "cRO RUAcRUcLO LINGcLUcWO WAENcSO SALAdRUSIdSUAcHO HIPcLO CHULAcO ANGcHO NOKHUKcPAIYANNOI",
   "cSARA AcMAI HAN-AKATcSARA AAdAMdIdIIdUEdUEEdUdUUcPHINTHU@E3FbCURRENCY SYMBOL BAHT",
   "bCHARACTER SARA EdAEdOdAI MAIMUANeMAIMALAIcLAKKHANGYAOcMAIYAMOKcMAITAIKHUcMAI EKdTHOdTRI",
   "dCHATTAWAcTHANTHAKHATcNIKHAHITcYAMAKKANcFONGMANbDIGIT ZEROcONEcTWOcTHREEcFOURcFIVEcSIXcSEVEN",
   "cEIGHTcNINEbCHARACTER ANGKHANKHUcKHOMUT@E81aLAO LETTER KOcKHO SUNG@E84dTAM@E86cPALI GHAcNGOcCO",
   "cPALI CHAcSO TAM@E8CcPALI JHAcNYOcPALI NYAdTTAdTTHAdDDAdDDHAdNNAcDOcTOcTHO SUNGdTAMcPALI DHA",
   "cNOcBOcPOcPHO SUNGcFO TAMcPHO~cFO SUNGcPALI BHAcMOcYOcLO LING@EA5dLOOT@EA7cWOcSANSKRIT SHAdSSA",
   "cSO SUNGcHO~cPALI LLAcOcHO TAMbELLIPSISbVOWEL SIGN AdMAI KANdAAdAMdIdIIdYdYYdUdUU",
   "bSIGN PALI VIRAMAbVOWEL SIGN MAI KONbSEMIVOWEL SIGN LOdNYO@EC0bVOWEL SIGN EdEIdOdAYdAI@EC6",
   "bKO LA@EC8bTONE MAI EKdTHOdTIdCATAWAbCANCELLATION MARKbNIGGAHITAbYAMAKKAN@ED0bDIGIT ZEROcONE",
   "cTWOcTHREEcFOURcFIVEcSIXcSEVENcEIGHTcNINE@EDCbHO NOcMObLETTER KHMU GOdNYO@F00",
   "aTIBETAN SYLLABLE OMbMARK GTER YIG MGO TRUNCATED Af-UM RNAM BCAD MAgGTER TSHEG~",
   "cINITIAL YIG MGO MDUN~cCLOSING YIG MGO SGAB~cCARET YIG MGO PHUR SHAD~cYIG MGO TSHEG~~",
   "cSBRUL SHADcBSKUR YIG MGOcBKA- SHOG~~cINTERSYLLABIC TSHEGcDELIMITER TSHEG BSTARcSHADcNYIS~",
   "cTSHEG~cNYIS~~cRIN CHEN SPUNGS~cRGYA GRAM~cCARET -DZUD RTAGS ME LONG CANcGTER TSHEG",
   "bLOGOTYPE SIGN CHAD RTAGSdLHAG~bASTROLOGICAL SIGN SGRA GCAN -CHAR~d-KHYUD PAdSDONG TSHUGS",
   "bSIGN RDEL DKAR GCIGeGNYISeGSUMdNAG GCIGeGNYISdDKAR RDEL NAGbDIGIT ZEROcONEcTWOcTHREEcFOUR",
   "cFIVEcSIXcSEVENcEIGHTcNINEcHALF ONEdTWOdTHREEdFOURdFIVEdSIXdSEVENdEIGHTdNINEdZERO",
   "bMARK BSDUS RTAGScNGAS BZUNG NYI ZLAcCARET -DZUD RTAGS BZHI MIG CANcNGAS BZUNG SGOR RTAGS",
   "cCHE MGOcTSA -PHRUcGUG RTAGS GYONeGYAScANG KHANG GYONeGYASbSIGN YAR TSHEScMAR~bLETTER KAcKHA",
   "cGAcGHAcNGAcCAcCHAcJA@F49cNYAcTTAcTTHAcDDAcDDHAcNNAcTAcTHAcDAcDHAcNAcPAcPHAcBAcBHAcMAcTSAcTSHA",
   "cDZAcDZHAcWAcZHAcZAc-AcYAcRAcLAcSHAcSSAcSAcHAcAcKSSAcFIXED-FORM RAcKKAcRRA@F71bVOWEL SIGN AAdI",
   "dIIdUdUUdVOCALIC ReRReLeLLdEdEEdOdOObSIGN RJES SU NGA ROcRNAM BCADbVOWEL SIGN REVERSED IeII",
   "bSIGN NYI ZLA NAA DAcSNA LDANbMARK HALANTAcPALUTAbSIGN LCI RTAGScYANG~cLCE TSA CANcMCHU~",
   "cGRU CAN RGYINGSdMED~cINVERTED MCHU CANbSUBJOINED SIGN LCE TSA~dMCHU~dINVERTED~~cLETTER KAdKHA",
   "dGAdGHAdNGAdCAdCHAdJA@F99dNYAdTTAdTTHAdDDAdDDHAdNNAdTAdTHAdDAdDHAdNAdPAdPHAdBAdBHAdMAdTSAdTSHA",
   "dDZAdDZHAdWAdZHAdZAd-AdYAdRAdLAdSHAdSSAdSAdHAdAdKSSAdFIXED-FORM WAeYAeRA@FBEbKU RU KHA",
   "eBZHI MIG CANbCANTILLATION SIGN HEAVY BEATdLIGHT~dCANG TE-UdSBUB -CHALbSYMBOL DRIL BUcRDO RJE",
   "cPADMA GDANcRDO RJE RGYA GRAMcPHUR PAcNOR BUeNYIS -KHYILeGSUM~eBZHI~@FCE",
   "bSIGN RDEL NAG RDEL DKAReGSUMbMARK BSKA- SHOG GI MGO RGYANcMNYAM YIG~~~cNYIS TSHEG",
   "cINITIAL BRDA RNYING YIG MGO MDUN MAcCLOSING BRDA RNYING YIG MGO SGAB~",
   "aRIGHT-FACING SVASTI SIGNaLEFT-FACING~~aRIGHT-FACING SVASTI SIGN WITH DOTSaLEFT-FACING~~~~",
   "aTIBETAN MARK LEADING MCHAN RTAGScTRAILING~~@1000aMYANMAR LETTER KAcKHAcGAcGHAcNGAcCAcCHAcJA",
   "cJHAcNYAcNNYAcTTAcTTHAcDDAcDDHAcNNAcTAcTHAcDAcDHAcNAcPAcPHAcBAcBHAcMAcYAcRAcLAcWAcSAcHAcLLAcA",
   "cSHAN~cIcIIcUcUUcEcMON~cOcAUbVOWEL SIGN TALL AAd~dIdIIdUdUUdEdAIdMON IIeOdE ABOVE",
   "bSIGN ANUSVARAcDOT BELOWcVISARGAcVIRAMAcASATbCONSONANT SIGN MEDIAL YAeRAeWAeHAbLETTER GREAT SA",
   "bDIGIT ZEROcONEcTWOcTHREEcFOURcFIVEcSIXcSEVENcEIGHTcNINEbSIGN LITTLE SECTIONc~bSYMBOL LOCATIVE",
   "cCOMPLETEDcAFOREMENTIONEDcGENITIVEbLETTER SHAcSSAcVOCALIC RdRRdLdLLbVOWEL SIGN VOCALIC ReRReL",
   "eLLbLETTER MON NGAdJHAdBBAdBBEbCONSONANT SIGN MON MEDIAL NAfMAfLAbLETTER SGAW KAREN SHA",
   "bVOWEL SIGN SGAW KAREN EUbTONE MARK SGAW KAREN HATHIfKE PHObLETTER WESTERN PWO KAREN THAfPWA",
   "bVOWEL SIGN WESTERN PWO KAREN EUgUEbSIGN WESTERN PWO KAREN TONE-1+4",
   "bLETTER EASTERN PWO KAREN NNAfYWAfGHWAbVOWEL SIGN GEBA KAREN IdKAYAH OEeUeEEbLETTER SHAN KA",
   "dKHAdGAdCAdZAdNYAdDAdNAdPHAdFAdBAdTHAdHAbCONSONANT SIGN SHAN MEDIAL WAbVOWEL SIGN SHAN AAeE",
   "fABOVEeFINAL YbSIGN SHAN TONE-2+1dTONE-5+1dCOUNCIL TONE-2+1eEMPHATIC TONE",
   "bLETTER RUMAI PALAUNG FAbSIGN RUMAI PALAUNG TONE-5bSHAN DIGIT ZEROdONEdTWOdTHREEdFOURdFIVEdSIX",
   "dSEVENdEIGHTdNINEbSIGN KHAMTI TONE-1dTONE-3bVOWEL SIGN AITON AeAIbSYMBOL SHAN ONEdEXCLAMATION",
   "aGEORGIAN CAPITAL LETTER ANdBANdGANdDONdENdVINdZENdTANdINdKANdLASdMANdNARdONdPARdZHARdRAEdSAN",
   "dTARdUNdPHARdKHARdGHANdQARdSHINdCHINdCANdJILdCILdCHARdXANdJHANdHAEdHEdHIEdWEdHARdHOE@10C7dYN",
   "@10CDdAEN@10D0bLETTER ANcBANcGANcDONcENcVINcZENcTANcINcKANcLAScMANcNARcONcPARcZHARcRAEcSANcTAR",
   "cUNcPHARcKHARcGHANcQARcSHINcCHINcCANcJILcCILcCHARcXANcJHANcHAEcHEcHIEcWEcHARcHOEcFIcYNcELIFI",
   "cTURNED GANcAINbPARAGRAPH SEPARATORaMODIFIER LETTER GEORGIAN NARaGEORGIAN LETTER AENcHARD SIGN",
   "cLABIAL~aHANGUL CHOSEONG KIYEOKcSSANGKIYEOKcNIEUNcTIKEUTcSSANGTIKEUTcRIEULcMIEUMcPIEUP",
   "cSSANGPIEUPcSIOScSSANGSIOScIEUNGcCIEUCcSSANGCIEUCcCHIEUCHcKHIEUKHcTHIEUTHcPHIEUPHcHIEUH",
   "cNIEUN-KIYEOKcSSANGNIEUNcNIEUN-TIKEUTcNIEUN-PIEUPcTIKEUT-KIYEOKcRIEUL-NIEUNcSSANGRIEUL",
   "cRIEUL-HIEUHcKAPYEOUNRIEULcMIEUM-PIEUPcKAPYEOUNMIEUMcPIEUP-KIYEOKcPIEUP-NIEUNcPIEUP-TIKEUT",
   "cPIEUP-SIOScPIEUP-SIOS-KIYEOKcPIEUP-SIOS-TIKEUTcPIEUP-SIOS-PIEUPcPIEUP-SSANGSIOS",
   "cPIEUP-SIOS-CIEUCcPIEUP-CIEUCcPIEUP-CHIEUCHcPIEUP-THIEUTHcPIEUP-PHIEUPHcKAPYEOUNPIEUP",
   "cKAPYEOUNSSANGPIEUPcSIOS-KIYEOKcSIOS-NIEUNcSIOS-TIKEUTcSIOS-RIEULcSIOS-MIEUMcSIOS-PIEUP",
   "cSIOS-PIEUP-KIYEOKcSIOS-SSANGSIOScSIOS-IEUNGcSIOS-CIEUCcSIOS-CHIEUCHcSIOS-KHIEUKHcSIOS-THIEUTH",
   "cSIOS-PHIEUPHcSIOS-HIEUHcCHITUEUMSIOScCHITUEUMSSANGSIOScCEONGCHIEUMSIOScCEONGCHIEUMSSANGSIOS",
   "cPANSIOScIEUNG-KIYEOKcIEUNG-TIKEUTcIEUNG-MIEUMcIEUNG-PIEUPcIEUNG-SIOScIEUNG-PANSIOScSSANGIEUNG",
   "cIEUNG-CIEUCcIEUNG-CHIEUCHcIEUNG-THIEUTHcIEUNG-PHIEUPHcYESIEUNGcCIEUC-IEUNGcCHITUEUMCIEUC",
   "cCHITUEUMSSANGCIEUCcCEONGCHIEUMCIEUCcCEONGCHIEUMSSANGCIEUCcCHIEUCH-KHIEUKHcCHIEUCH-HIEUH",
   "cCHITUEUMCHIEUCHcCEONGCHIEUMCHIEUCHcPHIEUPH-PIEUPcKAPYEOUNPHIEUPHcSSANGHIEUHcYEORINHIEUH",
   "cKIYEOK-TIKEUTcNIEUN-SIOScNIEUN-CIEUCcNIEUN-HIEUHcTIKEUT-RIEULcFILLERbJUNGSEONG~cAcAEcYAcYAE",
   "cEOcEcYEOcYEcOcWAcWAEcOEcYOcUcWEOcWEcWIcYUcEUcYIcIcA-OcA-UcYA-OcYA-YOcEO-OcEO-UcEO-EUcYEO-O",
   "cYEO-UcO-EOcO-EcO-YEcO-OcO-UcYO-YAcYO-YAEcYO-YEOcYO-OcYO-IcU-AcU-AEcU-EO-EUcU-YEcU-UcYU-A",
   "cYU-EOcYU-EcYU-YEOcYU-YEcYU-UcYU-IcEU-UcEU-EUcYI-UcI-AcI-YAcI-OcI-UcI-EUcI-ARAEAcARAEA",
   "cARAEA-EOcARAEA-UcARAEA-IcSSANGARAEAcA-EUcYA-UcYEO-YAcO-YAcO-YAEbJONGSEONG KIYEOKcSSANGKIYEOK",
   "cKIYEOK-SIOScNIEUNcNIEUN-CIEUCcNIEUN-HIEUHcTIKEUTcRIEULcRIEUL-KIYEOKcRIEUL-MIEUMcRIEUL-PIEUP",
   "cRIEUL-SIOScRIEUL-THIEUTHcRIEUL-PHIEUPHcRIEUL-HIEUHcMIEUMcPIEUPcPIEUP-SIOScSIOScSSANGSIOS",
   "cIEUNGcCIEUCcCHIEUCHcKHIEUKHcTHIEUTHcPHIEUPHcHIEUHcKIYEOK-RIEULcKIYEOK-SIOS-KIYEOK",
   "cNIEUN-KIYEOKcNIEUN-TIKEUTcNIEUN-SIOScNIEUN-PANSIOScNIEUN-THIEUTHcTIKEUT-KIYEOKcTIKEUT-RIEUL",
   "cRIEUL-KIYEOK-SIOScRIEUL-NIEUNcRIEUL-TIKEUTcRIEUL-TIKEUT-HIEUHcSSANGRIEULcRIEUL-MIEUM-KIYEOK",
   "cRIEUL-MIEUM-SIOScRIEUL-PIEUP-SIOScRIEUL-PIEUP-HIEUHcRIEUL-KAPYEOUNPIEUPcRIEUL-SSANGSIOS",
   "cRIEUL-PANSIOScRIEUL-KHIEUKHcRIEUL-YEORINHIEUHcMIEUM-KIYEOKcMIEUM-RIEULcMIEUM-PIEUPcMIEUM-SIOS",
   "cMIEUM-SSANGSIOScMIEUM-PANSIOScMIEUM-CHIEUCHcMIEUM-HIEUHcKAPYEOUNMIEUMcPIEUP-RIEUL",
   "cPIEUP-PHIEUPHcPIEUP-HIEUHcKAPYEOUNPIEUPcSIOS-KIYEOKcSIOS-TIKEUTcSIOS-RIEULcSIOS-PIEUPcPANSIOS",
   "cIEUNG-KIYEOKcIEUNG-SSANGKIYEOKcSSANGIEUNGcIEUNG-KHIEUKHcYESIEUNGcYESIEUNG-SIOS",
   "cYESIEUNG-PANSIOScPHIEUPH-PIEUPcKAPYEOUNPHIEUPHcHIEUH-NIEUNcHIEUH-RIEULcHIEUH-MIEUM",
   "cHIEUH-PIEUPcYEORINHIEUHcKIYEOK-NIEUNcKIYEOK-PIEUPcKIYEOK-CHIEUCHcKIYEOK-KHIEUKHcKIYEOK-HIEUH",
   "cSSANGNIEUNaETHIOPIC SYLLABLE HAcHUcHIcHAAcHEEcHEcHOcHOAcLAcLUcLIcLAAcLEEcLEcLOcLWAcHHAcHHU",
   "cHHIcHHAAcHHEEcHHEcHHOcHHWAcMAcMUcMIcMAAcMEEcMEcMOcMWAcSZAcSZUcSZIcSZAAcSZEEcSZEcSZOcSZWAcRA",
   "cRUcRIcRAAcREEcREcROcRWAcSAcSUcSIcSAAcSEEcSEcSOcSWAcSHAcSHUcSHIcSHAAcSHEEcSHEcSHOcSHWAcQAcQU",
   "cQIcQAAcQEEcQEcQOcQOAcQWA@124AcQWIcQWAAcQWEEcQWE@1250cQHAcQHUcQHIcQHAAcQHEEcQHEcQHO@1258cQHWA",
   "@125AcQHWIcQHWAAcQHWEEcQHWE@1260cBAcBUcBIcBAAcBEEcBEcBOcBWAcVAcVUcVIcVAAcVEEcVEcVOcVWAcTAcTU",
   "cTIcTAAcTEEcTEcTOcTWAcCAcCUcCIcCAAcCEEcCEcCOcCWAcXAcXUcXIcXAAcXEEcXEcXOcXOAcXWA@128AcXWIcXWAA",
   "cXWEEcXWE@1290cNAcNUcNIcNAAcNEEcNEcNOcNWAcNYAcNYUcNYIcNYAAcNYEEcNYEcNYOcNYWAcGLOTTAL AdUdIdAA",
   "dEEdEdOdWAcKAcKUcKIcKAAcKEEcKEcKOcKOAcKWA@12B2cKWIcKWAAcKWEEcKWE@12B8cKXAcKXUcKXIcKXAAcKXEE",
   "cKXEcKXO@12C0cKXWA@12C2cKXWIcKXWAAcKXWEEcKXWE@12C8cWAcWUcWIcWAAcWEEcWEcWOcWOAcPHARYNGEAL AdUdI",
   "dAAdEEdEdO@12D8cZAcZUcZIcZAAcZEEcZEcZOcZWAcZHAcZHUcZHIcZHAAcZHEEcZHEcZHOcZHWAcYAcYUcYIcYAAcYEE",
   "cYEcYOcYOAcDAcDUcDIcDAAcDEEcDEcDOcDWAcDDAcDDUcDDIcDDAAcDDEEcDDEcDDOcDDWAcJAcJUcJIcJAAcJEEcJE",
   "cJOcJWAcGAcGUcGIcGAAcGEEcGEcGOcGOAcGWA@1312cGWIcGWAAcGWEEcGWE@1318cGGAcGGUcGGIcGGAAcGGEEcGGE",
   "cGGOcGGWAAcTHAcTHUcTHIcTHAAcTHEEcTHEcTHOcTHWAcCHAcCHUcCHIcCHAAcCHEEcCHEcCHOcCHWAcPHAcPHUcPHI",
   "cPHAAcPHEEcPHEcPHOcPHWAcTSAcTSUcTSIcTSAAcTSEEcTSEcTSOcTSWAcTZAcTZUcTZIcTZAAcTZEEcTZEcTZOcTZOA",
   "cFAcFUcFIcFAAcFEEcFEcFOcFWAcPAcPUcPIcPAAcPEEcPEcPOcPWAcRYAcMYAcFYA@135D",
   "bCOMBINING GEMINATION AND VOWEL LENGTH MARKc~~~cGEMINATION~bSECTION~bWORDSPACEbFULL STOPbCOMMA",
   "bSEMICOLONbCOLONbPREFACE~bQUESTION MARKbPARAGRAPH SEPARATORbDIGIT ONEcTWOcTHREEcFOURcFIVEcSIX",
   "cSEVENcEIGHTcNINEbNUMBER TENcTWENTYcTHIRTYcFORTYcFIFTYcSIXTYcSEVENTYcEIGHTYcNINETYcHUNDRED",
   "cTEN THOUSAND@1380bSYLLABLE SEBATBEIT MWAcMWIcMWEEcMWEcSEBATBEIT BWAcBWIcBWEEcBWE",
   "cSEBATBEIT FWAcFWIcFWEEcFWEcSEBATBEIT PWAcPWIcPWEEcPWEbTONAL MARK YIZETdDERETdRIKRIKdSHORT~",
   "dDIFATdKENATdCHIRETdHIDETdDERET-HIDETdKURT@13A0aCHEROKEE LETTER AcEcIcOcUcVcGAcKAcGEcGIcGOcGU",
   "cGVcHAcHEcHIcHOcHUcHVcLAcLEcLIcLOcLUcLVcMAcMEcMIcMOcMUcNAcHNAcNAHcNEcNIcNOcNUcNVcQUAcQUEcQUI",
   "cQUOcQUUcQUVcSAcScSEcSIcSOcSUcSVcDAcTAcDEcTEcDIcTIcDOcDUcDVcDLAcTLAcTLEcTLIcTLOcTLUcTLVcTSA",
   "cTSEcTSIcTSOcTSUcTSVcWAcWEcWIcWOcWUcWVcYAcYEcYIcYOcYUcYVcMV@13F8bSMALL LETTER YEdYIdYOdYUdYV",
   "dMV@1400aCANADIAN SYLLABICS HYPHENcEcAAIcIcIIcOcOOcY-CREE~cCARRIER EEdIcAcAAcWEcWEST-CREE~cWI",
   "cWEST-CREE~cWIIcWEST-CREE~cWOcWEST-CREE~cWOOcWEST-CREE~cNASKAPI~cWAcWEST-CREE~cWAAcWEST-CREE~",
   "cNASKAPI~cAIcY-CREE WcGLOTTAL STOPcFINAL ACUTEdGRAVEdBOTTOM HALF RINGdTOP~~dRIGHT~~d~",
   "dDOUBLE ACUTEeSHORT VERTICAL STROKESdMIDDLE DOTdSHORT HORIZONTAL STROKEdPLUSdDOWN TACKcENcIN",
   "cONcANcPEcPAAIcPIcPIIcPOcPOOcY-CREE~cCARRIER HEEdHIcPAcPAAcPWEcWEST-CREE~cPWIcWEST-CREE~cPWII",
   "cWEST-CREE~cPWOcWEST-CREE~cPWOOcWEST-CREE~cPWAcWEST-CREE~cPWAAcWEST-CREE~cY-CREE~cPcWEST-CREE~",
   "cCARRIER HcTEcTAAIcTIcTIIcTOcTOOcY-CREE~cCARRIER DEEdDIcTAcTAAcTWEcWEST-CREE~cTWIcWEST-CREE~",
   "cTWIIcWEST-CREE~cTWOcWEST-CREE~cTWOOcWEST-CREE~cTWAcWEST-CREE~cTWAAcWEST-CREE~cNASKAPI~cTcTTE",
   "cTTIcTTOcTTAcKEcKAAIcKIcKIIcKOcKOOcY-CREE~cKAcKAAcKWEcWEST-CREE~cKWIcWEST-CREE~cKWII",
   "cWEST-CREE~cKWOcWEST-CREE~cKWOOcWEST-CREE~cKWAcWEST-CREE~cKWAAcWEST-CREE~cNASKAPI~cKcKW",
   "cSOUTH-SLAVEY KEHdKIHdKOHdKAHcCEcCAAIcCIcCIIcCOcCOOcY-CREE~cCAcCAAcCWEcWEST-CREE~cCWI",
   "cWEST-CREE~cCWIIcWEST-CREE~cCWOcWEST-CREE~cCWOOcWEST-CREE~cCWAcWEST-CREE~cCWAAcWEST-CREE~",
   "cNASKAPI~cCcSAYISI THcMEcMAAIcMIcMIIcMOcMOOcY-CREE~cMAcMAAcMWEcWEST-CREE~cMWIcWEST-CREE~cMWII",
   "cWEST-CREE~cMWOcWEST-CREE~cMWOOcWEST-CREE~cMWAcWEST-CREE~cMWAAcWEST-CREE~cNASKAPI~cM",
   "cWEST-CREE~cMHcATHAPASCAN McSAYISI~cNEcNAAIcNIcNIIcNOcNOOcY-CREE~cNAcNAAcNWEcWEST-CREE~cNWA",
   "cWEST-CREE~cNWAAcWEST-CREE~cNASKAPI~cNcCARRIER NGcNHcLEcLAAIcLIcLIIcLOcLOOcY-CREE~cLAcLAAcLWE",
   "cWEST-CREE~cLWIcWEST-CREE~cLWIIcWEST-CREE~cLWOcWEST-CREE~cLWOOcWEST-CREE~cLWAcWEST-CREE~cLWAA",
   "cWEST-CREE~cLcWEST-CREE~cMEDIAL~cSEcSAAIcSIcSIIcSOcSOOcY-CREE~cSAcSAAcSWEcWEST-CREE~cSWI",
   "cWEST-CREE~cSWIIcWEST-CREE~cSWOcWEST-CREE~cSWOOcWEST-CREE~cSWAcWEST-CREE~cSWAAcWEST-CREE~",
   "cNASKAPI~cScATHAPASCAN~cSWcBLACKFOOT ScMOOSE-CREE SKcNASKAPI SKWdS-WdSPWAdSTWAdSKWAdSCWAcSHE",
   "cSHIcSHIIcSHOcSHOOcSHAcSHAAcSHWEcWEST-CREE~cSHWIcWEST-CREE~cSHWIIcWEST-CREE~cSHWOcWEST-CREE~",
   "cSHWOOcWEST-CREE~cSHWAcWEST-CREE~cSHWAAcWEST-CREE~cSHcYEcYAAIcYIcYIIcYOcYOOcY-CREE~cYAcYAAcYWE",
   "cWEST-CREE~cYWIcWEST-CREE~cYWIIcWEST-CREE~cYWOcWEST-CREE~cYWOOcWEST-CREE~cYWAcWEST-CREE~cYWAA",
   "cWEST-CREE~cNASKAPI~cYcBIBLE-CREE~cWEST-CREE~cSAYISI YIcREcR-CREE~cWEST-CREE LEcRAAIcRIcRIIcRO",
   "cROOcWEST-CREE LOcRAcRAAcWEST-CREE LAcRWAAcWEST-CREE~cRcWEST-CREE~cMEDIAL~cFEcFAAIcFIcFIIcFO",
   "cFOOcFAcFAAcFWAAcWEST-CREE~cFcTHEcN-CREE~cTHIcN-CREE~cTHIIcN-CREE~cTHOcTHOOcTHAcTHAAcTHWAA",
   "cWEST-CREE~cTHcTTHEcTTHIcTTHOcTTHAcTTHcTYEcTYIcTYOcTYAcNUNAVIK HEdHIdHIIdHOdHOOdHAdHAAdH",
   "cNUNAVUT~cHKcQAAIcQIcQIIcQOcQOOcQAcQAAcQcTLHEcTLHIcTLHOcTLHAcWEST-CREE REdRIdROdRAcNGAAIcNGI",
   "cNGIIcNGOcNGOOcNGAcNGAAcNGcNNGcSAYISI SHEdSHIdSHOdSHAcWOODS-CREE THEdTHIdTHOdTHAdTHcLHIcLHII",
   "cLHOcLHOOcLHAcLHAAcLHcTH-CREE THEdTHIdTHIIdTHOdTHOOdTHAdTHAAdTHcAIVILIK BcBLACKFOOT EdIdOdAdWE",
   "dWIdWOdWAdNEdNIdNOdNAdKEdKIdKOdKAcSAYISI HEdHIdHOdHAcCARRIER GHUdGHOdGHEdGHEEdGHIdGHAdRUdROdRE",
   "dREEdRIdRAdWUdWOdWEdWEEdWIdWAdHWUdHWOdHWEdHWEEdHWIdHWAdTHUdTHOdTHEdTHEEdTHIdTHAdTTUdTTOdTTE",
   "dTTEEdTTIdTTAdPUdPOdPEdPEEdPIdPAdPdGUdGOdGEdGEEdGIdGAdKHUdKHOdKHEdKHEEdKHIdKHAdKKUdKKOdKKE",
   "dKKEEdKKIdKKAdKKdNUdNOdNEdNEEdNIdNAdMUdMOdMEdMEEdMIdMAdYUdYOdYEdYEEdYIdYAdJUcSAYISI~",
   "cCARRIER JOdJEdJEEdJIcSAYISI~cCARRIER JAdJJUdJJOdJJEdJJEEdJJIdJJAdLUdLOdLEdLEEdLIdLAdDLUdDLO",
   "dDLEdDLEEdDLIdDLAdLHUdLHOdLHEdLHEEdLHIdLHAdTLHUdTLHOdTLHEdTLHEEdTLHIdTLHAdTLUdTLOdTLEdTLEEdTLI",
   "dTLAdZUdZOdZEdZEEdZIdZAdZdINITIAL~dDZUdDZOdDZEdDZEEdDZIdDZAdSUdSOdSEdSEEdSIdSAdSHUdSHOdSHE",
   "dSHEEdSHIdSHAdSHdTSUdTSOdTSEdTSEEdTSIdTSAdCHUdCHOdCHEdCHEEdCHIdCHAdTTSUdTTSOdTTSEdTTSEEdTTSI",
   "dTTSAcCHI SIGNcFULL STOPcQAIcNGAIcNNGIcNNGIIcNNGOcNNGOOcNNGAcNNGAAcWOODS-CREE THWEEdTHWIdTHWII",
   "dTHWOdTHWOOdTHWAdTHWAAdFINAL THcBLACKFOOT WaOGHAM SPACE MARKbLETTER BEITHcLUIScFEARNcSAILcNION",
   "cUATHcDAIRcTINNEcCOLLcCEIRTcMUINcGORTcNGEADALcSTRAIFcRUIScAILMcONNcURcEADHADHcIODHADHcEABHADH",
   "cORcUILLEANNcIFINcEAMHANCHOLLcPEITHbFEATHER MARKbREVERSED~~@16A0aRUNIC LETTER FEHU FEOH FE FcV",
   "cURUZ UR UcYRcYcWcTHURISAZ THURS THORNcETHcANSUZ AcOS OcAC AcAESCcLONG-BRANCH-OSS O",
   "cSHORT-TWIG-OSS~cOcOEcONcRAIDO RAD REID RcKAUNAcCENcKAUN KcGcENGcGEBO GYFU GcGARcWUNJO WYNN W",
   "cHAGLAZ HcHAEGL~cLONG-BRANCH-HAGALL~cSHORT-TWIG-HAGALL~cNAUDIZ NYD NAUD NcSHORT-TWIG-NAUD~",
   "cDOTTED-NcISAZ IS ISS IcEcJERAN JcGERcLONG-BRANCH-AR AEcSHORT-TWIG-AR AcIWAZ EOH",
   "cPERTHO PEORTH PcALGIZ EOLHXcSOWILO ScSIGEL LONG-BRANCH-SOL~cSHORT-TWIG-SOL~cCcZ",
   "cTIWAZ TIR TYR TcSHORT-TWIG-TYR~cDcBERKANAN BEORC BJARKAN BcSHORT-TWIG-BJARKAN~cDOTTED-P",
   "cOPEN-PcEHWAZ EH EcMANNAZ MAN McLONG-BRANCH-MADR~cSHORT-TWIG-MADR~cLAUKAZ LAGU LOGR LcDOTTED-L",
   "cINGWAZcINGcDAGAZ DAEG DcOTHALAN ETHEL OcEARcIORcCWEORTHcCALCcCEALCcSTANcLONG-BRANCH-YR",
   "cSHORT-TWIG-YRcICELANDIC-YRcQcXbSINGLE PUNCTUATIONbMULTIPLE~bCROSS~bARLAUG SYMBOLbTVIMADUR~",
   "bBELGTHOR~bLETTER KcSHcOOcFRANKS CASKET OSeISeEHeACeAESC"]

end ClassSchema.Text.CharacterName
