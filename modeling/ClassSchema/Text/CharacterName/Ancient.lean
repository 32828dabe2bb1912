/-!
# Character names: ancient

The part of the table of character names from U+10000 to U+11FFF: ancient scripts.
-/

namespace ClassSchema.Text.CharacterName

/-- The names of ancient scripts. -/
def ancient : List String :=
  ["@10000aLINEAR B SYLLABLE B008 AdB038 EdB028 IdB061 OdB010 UdB001 DAdB045 DEdB007 DIdB014 DO",
   "dB051 DUdB057 JAdB046 JE@1000DdB036 JOdB065 JUdB077 KAdB044 KEdB067 KIdB070 KOdB081 KUdB080 MA",
   "dB013 MEdB073 MIdB015 MOdB023 MUdB006 NAdB024 NEdB030 NIdB052 NOdB055 NUdB003 PAdB072 PE",
   "dB039 PIdB011 POdB050 PUdB016 QAdB078 QEdB021 QIdB032 QO@10028dB060 RAdB027 REdB053 RIdB002 RO",
   "dB026 RUdB031 SAdB009 SEdB041 SIdB012 SOdB058 SUdB059 TAdB004 TEdB037 TIdB005 TOdB069 TU",
   "dB054 WAdB075 WEdB040 WIdB042 WO@1003CdB017 ZAdB074 ZE@1003FdB020 ZOdB025 A2dB043 A3dB085 AU",
   "dB071 DWEdB090 DWOdB048 NWAdB029 PU2dB062 PTEdB076 RA2dB033 RA3dB068 RO2dB066 TA2dB087 TWE",
   "dB091 TWO@10050cSYMBOL B018+1dB022dB034dB047dB049dB056dB063+1dB079dB082+1dB086dB089@10080",
   "cIDEOGRAM B100 MANdB102 WOMANdB104 DEERdB105 EQUIDdB105F MAREdB105M STALLIONdB106F EWE",
   "dB106M RAMdB107F SHE-GOATdB107M HE-GOATdB108F SOWdB108M BOARdB109F COWdB109M BULLdB120 WHEAT",
   "dB121 BARLEYdB122 OLIVEdB123 SPICEdB125 CYPERUScMONOGRAM B127 KAPOdB128 KANAKO",
   "cIDEOGRAM B130 OILdB131 WINEdB132cMONOGRAM B133 AREPAdB135 MERIcIDEOGRAM B140 BRONZEdB141 GOLD",
   "dB142dB145 WOOLdB146dB150dB151 HORNdB152+2cMONOGRAM B156 TURO2cIDEOGRAM B157+1dB159 CLOTHdB160",
   "+1dB162 GARMENTdB163 ARMOURdB164+8dB173 MONTHdB174dB176 TREEdB177+8dB189+1dB191 HELMET",
   "dB220 FOOTSTOOLdB225 BATHTUBdB230 SPEARdB231 ARROWdB232dB233 SWORDdB234dB236",
   "dB240 WHEELED CHARIOTdB241~dB242 CHARIOT FRAMEdB243 WHEELdB245+1cMONOGRAM B247 DIPTE",
   "cIDEOGRAM B248+1dB251+2dB254 DARTdB255+4dVESSEL B155eB200+19eB221+1eB226+3eB250eB305@10100",
   "aAEGEAN WORD SEPARATOR LINEdDOTbCHECK MARK@10107bNUMBER ONEcTWOcTHREEcFOURcFIVEcSIXcSEVEN",
   "cEIGHTcNINEcTENcTWENTYcTHIRTYcFORTYcFIFTYcSIXTYcSEVENTYcEIGHTYcNINETYcONE HUNDREDcTWO~cTHREE~",
   "cFOUR~cFIVE~cSIX~cSEVEN~cEIGHT~cNINE~cONE THOUSANDcTWO~cTHREE~cFOUR~cFIVE~cSIX~cSEVEN~cEIGHT~",
   "cNINE~cTEN~cTWENTY~cTHIRTY~cFORTY~cFIFTY~cSIXTY~cSEVENTY~cEIGHTY~cNINETY~@10137",
   "bWEIGHT BASE UNITcFIRST SUBUNITcSECOND~cTHIRD~cFOURTH~bDRY MEASURE FIRST~bLIQUID~~~",
   "bMEASURE SECOND~cTHIRD~aGREEK ACROPHONIC ATTIC ONE QUARTEReHALFeDRACHMAdFIVEdFIFTY",
   "dFIVE HUNDREDeTHOUSANDdFIFTY~dFIVE TALENTSdTEN~dFIFTY~dONE HUNDRED~dFIVE~~dONE THOUSAND~",
   "dFIVE~~eSTATERSdTEN~dFIFTY~dONE HUNDRED~dFIVE~~dONE THOUSAND~dTEN~~dFIFTY~~dTEN MNAS",
   "cHERAEUM ONE PLETHRONcTHESPIAN ONEcHERMIONIAN~cEPIDAUREAN TWOcTHESPIAN~cCYRENAIC TWO DRACHMAS",
   "cEPIDAUREAN~~cTROEZENIAN FIVEdTENeALTERNATE FORMcHERMIONIAN TENcMESSENIAN~cTHESPIAN~dTHIRTY",
   "cTROEZENIAN FIFTYeALTERNATE FORMcHERMIONIAN FIFTYcTHESPIAN~dONE HUNDREDdTHREE~",
   "cEPIDAUREAN FIVE~cTROEZENIAN~~cTHESPIAN~~cCARYSTIAN~~cNAXIAN~~cTHESPIAN ONE THOUSANDdFIVE~",
   "cDELPHIC FIVE MNAScSTRATIAN FIFTY~bONE HALF SIGNeALTERNATE FORMbTWO THIRDS SIGN",
   "bTHREE QUARTERS~bYEAR~bTALENT~bDRACHMA~bOBOL~bTWO OBOLS~bTHREE~~bFOUR~~bFIVE~~bMETRETES~",
   "bKYATHOS BASE~bLITRA~bOUNKIA~bXESTES~bARTABE~bAROURA~bGRAMMA~bTRYBLION BASE~bZERO~",
   "bONE QUARTER~bSINUSOID~bINDICTION~aNOMISMA~@10190aROMAN SEXTANS~bUNCIA~bSEMUNCIA~bSEXTULA~",
   "bDIMIDIA~~bSILIQUA~bDENARIUS~bQUINARIUS~bSESTERTIUS~bDUPONDIUS~bAS~bCENTURIAL~aASCIA SYMBOL",
   "@101A0aGREEK SYMBOL TAU RHO@101D0aPHAISTOS DISC SIGN PEDESTRIANdPLUMED HEADdTATTOOED~dCAPTIVE",
   "dCHILDdWOMANdHELMETdGAUNTLETdTIARAdARROWdBOWdSHIELDdCLUBdMANACLESdMATTOCKdSAWdLIDdBOOMERANG",
   "dCARPENTRY PLANEdDOLIUMdCOMBdSLINGdCOLUMNdBEEHIVEdSHIPdHORNdHIDEdBULLS LEGdCATdRAMdEAGLEdDOVE",
   "dTUNNYdBEEdPLANE TREEdVINEdPAPYRUSdROSETTEdLILYdOX BACKdFLUTEdGRATERdSTRAINERdSMALL AXE",
   "dWAVY BANDdCOMBINING OBLIQUE STROKE@10280aLYCIAN LETTER AcEcBcBHcGcDcIcWcZcTHcJcKcQcLcMcNcMM",
   "cNNcUcPcKKcRcScTcTTcANcENcHcX@102A0aCARIAN LETTER AcP2cDcLcUUUcRcLDcA2cQcBcMcOcD2cTcSHcSH2cS",
   "cC-18cUcNNcXcNcTT2cPcSScIcEcUUUUcKcK2cNDcUUcGcG2cSTcST2cNGcIIcC-39cTTcUUU2cRRcMBcMB2+2cLD2cE2",
   "cUUU3@102E0aCOPTIC EPACT THOUSANDS MARKcDIGIT ONEdTWOdTHREEdFOURdFIVEdSIXdSEVENdEIGHTdNINE",
   "cNUMBER TENdTWENTYdTHIRTYdFORTYdFIFTYdSIXTYdSEVENTYdEIGHTYdNINETYdONE HUNDREDdTWO~dTHREE~",
   "dFOUR~dFIVE~dSIX~dSEVEN~dEIGHT~dNINE~@10300aOLD ITALIC LETTER AdBEdKEdDEdEdVEdZEdHEdTHEdIdKA",
   "dELdEMdENdESHdOdPEdSHEdKUdERdESdTEdUdEKSdPHEdKHEdEFdERSdCHEdIIdUUdESScNUMERAL ONEdFIVEdTEN",
   "dFIFTY@1032DcLETTER YEdNORTHERN TSEdSOUTHERN~aGOTHIC LETTER AHSAcBAIRKANcGIBAcDAGScAIHVUS",
   "cQAIRTHRAcIUJAcHAGLcTHIUTHcEIScKUSMAcLAGUScMANNAcNAUTHScJERcURUScPAIRTHRAcNINETYcRAIDAcSAUIL",
   "cTEIWScWINJAcFAIHUcIGGWScHWAIRcOTHALcNINE HUNDRED@10350aOLD PERMIC LETTER ANdBURdGAIdDOIdE",
   "dZHOIdDZHOIdZATAdDZITAdIdKOKEdLEIdMENOEdNENOEdVOOIdPEEIdREIdSIIdTAIdUdCHERYdSHOOIdSHCHOOIdYRY",
   "dYERUdOdOOdEFdHAdTSIUdVERdYERdYERIdYATdIEdYUdYAdIAaCOMBINING OLD PERMIC LETTER ANeDOIeZATA",
   "eNENOEeSII@10380aUGARITIC LETTER ALPAcBETAcGAMLAcKHAcDELTAcHOcWOcZETAcHOTAcTETcYODcKAFcSHIN",
   "cLAMDAcMEMcDHALcNUNcZUcSAMKAcAINcPUcSADEcQOPAcRASHAcTHANNAcGHAINcTOcIcUcSSU@1039FbWORD DIVIDER",
   "aOLD PERSIAN SIGN AdIdUdKAdKUdGAdGUdXAdCAdJAdJIdTAdTUdDAdDIdDUdTHAdPAdBAdFAdNAdNUdMAdMIdMUdYA",
   "dVAdVIdRAdRUdLAdSAdZAdSHAdSSAdHA@103C8dAURAMAZDAAdAURAMAZDAA-2dAURAMAZDAAHAdXSHAAYATHIYA",
   "dDAHYAAUSHdDAHYAAUSH-2dBAGAdBUUMISHcWORD DIVIDERcNUMBER ONEdTWOdTENdTWENTYdHUNDRED@10400",
   "aDESERET CAPITAL LETTER LONG IeEeAeAHeOeOOdSHORT IeEeAeAHeOeOOdAYdOWdWUdYEEdHdPEEdBEEdTEEdDEE",
   "dCHEEdJEEdKAYdGAYdEFdVEEdETHdTHEEdESdZEEdESHdZHEEdERdELdEMdENdENGdOIdEWbSMALL LETTER LONG IeE",
   "eAeAHeOeOOdSHORT IeEeAeAHeOeOOdAYdOWdWUdYEEdHdPEEdBEEdTEEdDEEdCHEEdJEEdKAYdGAYdEFdVEEdETHdTHEE",
   "dESdZEEdESHdZHEEdERdELdEMdENdENGdOIdEWaSHAVIAN LETTER PEEPcTOTcKICKcFEEcTHIGHcSOcSUREcCHURCH",
   "cYEAcHUNGcBIBcDEADcGAGcVOWcTHEYcZOOcMEASUREcJUDGEcWOEcHA-HAcLOLLcMIMEcIFcEGGcASHcADOcONcWOOL",
   "cOUTcAHcROARcNUNcEATcAGEcICEcUPcOAKcOOZEcOILcAWEcAREcORcAIRcERRcARRAYcEARcIANcYEW",
   "aOSMANYA LETTER ALEFcBAcTAcJAcXAcKHAcDEELcRAcSAcSHIINcDHAcCAYNcGAcFAcQAAFcKAAFcLAANcMIINcNUUN",
   "cWAWcHAcYAcAcEcIcOcUcAAcEEcOO@104A0bDIGIT ZEROcONEcTWOcTHREEcFOURcFIVEcSIXcSEVENcEIGHTcNINE",
   "@104B0aOSAGE CAPITAL LETTER AdAIdAINdAHdBRAdCHAdEHCHAdEdEINdHAdHYAdIdKAdEHKAdKYAdLAdMAdNAdO",
   "dOINdPAdEHPAdSAdSHAdTAdEHTAdTSAdEHTSAdTSHAdDHAdUdWAdKHAdGHAdZAdZHA@104D8bSMALL LETTER AdAIdAIN",
   "dAHdBRAdCHAdEHCHAdEdEINdHAdHYAdIdKAdEHKAdKYAdLAdMAdNAdOdOINdPAdEHPAdSAdSHAdTAdEHTAdTSAdEHTSA",
   "dTSHAdDHAdUdWAdKHAdGHAdZAdZHA@10500aELBASAN LETTER AcBEcCEcCHEcDEcNDEcDHEcEIcEcFEcGEcGJEcHEcI",
   "cJEcKEcLEcLLEcMEcNEcNAcNJEcOcPEcQEcREcRREcSEcSHEcTEcTHEcUcVEcXEcYcZEcZHEcGHEcGHAMMAcKHE@10530",
   "aCAUCASIAN ALBANIAN LETTER ALTdBETdGIMdDATdEBdZARLdEYNdZHILdTASdCHAdYOWDdZHAdIRBdSHAdLANdINYA",
   "dXEYNdDYANdCARdJHOXdKARdLYITdHEYTdQAYdAORdCHOYdCHIdCYAYdMAQdQARdNOWCdDZYAYdSHAKdJAYNdONdTYAY",
   "dFAMdDZAYdCHATdPENdGHEYSdRATdSEYKdVEYZdTIWRdSHOYdIWNdCYAWdCAYNdYAYDdPIWRdKIW@1056F",
   "cCITATION MARKaVITHKUQI CAPITAL LETTER AdBBEdBEdCEdCHEdDEdDHEdEIdEdFEdGA@1057CdHAdHHAdIdIJEdJE",
   "dKAdLAdLLAdMEdNEdNJEdOdPEdQAdRE@1058CdSEdSHEdTEdTHEdUdVEdXE@10594dYdZE@10597bSMALL LETTER A",
   "dBBEdBEdCEdCHEdDEdDHEdEIdEdFEdGA@105A3dHAdHHAdIdIJEdJEdKAdLAdLLAdMEdNEdNJEdOdPEdQAdRE@105B3dSE",
   "dSHEdTEdTHEdUdVEdXE@105BBdYdZE@10600aLINEAR A SIGN AB001+10dAB013dAB016+1dAB020+1dAB021F",
   "dAB021MdAB022dAB022FdAB022MdAB023dAB023MdAB024dAB026+2dA028BdAB029+2dAB034dAB037+4dAB044+7",
   "dAB053+8dAB065+2dAB069+1dAB073+1dAB076+6dAB085+2dA100-102dAB118dAB120dA120BdAB122+1dAB131A",
   "dAB131BdA131CdAB164dAB171dAB180dAB188dAB191dA301+7dA309AdA309BdA309CdA310+2dA313AdA313BdA313C",
   "dA314+57dA400-VASdA401-VASdA402-VASdA403-VASdA404-VASdA405-VASdA406-VASdA407-VASdA408-VAS",
   "dA409-VASdA410-VASdA411-VASdA412-VASdA413-VASdA414-VASdA415-VASdA416-VASdA417-VASdA418-VAS",
   "dA501+5dA508+5dA515+1dA520+1dA523+9dA534+8dA545dA547+10dA559dA563+3dA568+21dA591+1dA594+2dA598",
   "dA600+4dA606dA608+16dA626+3dA634dA637+1dA640dA642+4dA648+1dA651+13@10740dA701 AdA702 BdA703 D",
   "dA704 EdA705 FdA706 HdA707 JdA708 KdA709 LdA709-2 L2dA709-3 L3dA709-4 L4dA709-6 L6dA710 W",
   "dA711 XdA712 YdA713 OMEGAdA714 ABBdA715 BBdA717 DDdA726 EYYYdA732 JE@10760dA800+7@10780",
   "aMODIFIER LETTER SMALL CAPITAL AAcSUPERSCRIPT TRIANGULAR COLONdHALF~~cSMALL AEdCAPITAL B",
   "dB WITH HOOK@10787dDZ DIGRAPHfWITH RETROFLEX HOOKgCURLdDEZH DIGRAPHdD WITH TAILfHOOKgAND TAIL",
   "dREVERSED EdCLOSED REVERSED OPEN~dFENG DIGRAPHdRAMS HORNdCAPITAL GdG WITH HOOKdCAPITAL~~~",
   "dH WITH STROKEdCAPITAL HdHENG WITH HOOKdDOTLESS J WITH STROKE AND~dLS DIGRAPHdLZ~dL WITH BELT",
   "dCAPITAL~~~dL WITH RETROFLEX HOOK AND~dLEZHeWITH RETROFLEX HOOKdTURNED YfWITH BELT",
   "dO WITH STROKEdCAPITAL OEdCLOSED OMEGAdQdTURNED R WITH LONG LEGiAND RETROFLEX HOOKdR WITH TAIL",
   "fFISHHOOKdCAPITAL RdTC DIGRAPH WITH CURLdTS DIGRAPHfWITH RETROFLEX HOOKdTESH DIGRAPH",
   "dT WITH RETROFLEX HOOKdV WITH RIGHT~@107B2dCAPITAL YcGLOTTAL STOP WITH STROKEcREVERSED~~~~",
   "cBILABIAL CLICKcDENTAL~cLATERAL~cALVEOLAR~cRETROFLEX CLICK WITH RETROFLEX HOOK",
   "cSMALL S WITH CURL@10800aCYPRIOT SYLLABLE AcEcIcOcUcJA@10808cJO@1080AcKAcKEcKIcKOcKUcLAcLEcLI",
   "cLOcLUcMAcMEcMIcMOcMUcNAcNEcNIcNOcNUcPAcPEcPIcPOcPUcRAcREcRIcROcRUcSAcSEcSIcSOcSUcTAcTEcTIcTO",
   "cTUcWAcWEcWIcWO@10837cXAcXE@1083CcZA@1083FcZOaIMPERIAL ARAMAIC LETTER ALEPHdBETHdGIMELdDALETH",
   "dHEdWAWdZAYINdHETHdTETHdYODHdKAPHdLAMEDHdMEMdNUNdSAMEKHdAYINdPEdSADHEdQOPHdRESHdSHINdTAW@10857",
   "cSECTION SIGNcNUMBER ONEdTWOdTHREEdTENdTWENTYdONE HUNDREDeTHOUSANDdTEN~aPALMYRENE LETTER ALEPH",
   "cBETHcGIMELcDALETHcHEcWAWcZAYINcHETHcTETHcYODHcKAPHcLAMEDHcMEMcFINAL NUNc~cSAMEKHcAYINcPE",
   "cSADHEcQOPHcRESHcSHINcTAWbLEFT-POINTING FLEURONbRIGHT-POINTING~bNUMBER ONEcTWOcTHREEcFOURcFIVE",
   "cTENcTWENTYaNABATAEAN LETTER FINAL ALEPHc~cFINAL BETHc~cGIMELcDALETHcFINAL HEc~cWAWcZAYINcHETH",
   "cTETHcFINAL YODHc~cFINAL KAPHc~cFINAL LAMEDHc~cFINAL MEMc~cFINAL NUNc~cSAMEKHcAYINcPEcSADHE",
   "cQOPHcRESHcFINAL SHINc~cTAW@108A7bNUMBER ONEcTWOcTHREEcFOURbCRUCIFORM~~bNUMBER FIVEcTENcTWENTY",
   "cONE HUNDRED@108E0aHATRAN LETTER ALEPHcBETHcGIMELcDALETH-RESHcHEcWAWcZAYNcHETHcTETHcYODHcKAPH",
   "cLAMEDHcMEMcNUNcSAMEKHcAYNcPEcSADHEcQOPH@108F4cSHINcTAW@108FBbNUMBER ONEcFIVEcTENcTWENTY",
   "cONE HUNDREDaPHOENICIAN LETTER ALFcBETcGAMLcDELTcHEcWAUcZAIcHETcTETcYODcKAFcLAMDcMEMcNUNcSEMK",
   "cAINcPEcSADEcQOFcROSHcSHINcTAUbNUMBER ONEcTENcTWENTYcONE HUNDREDcTWOcTHREE@1091F",
   "bWORD SEPARATORaLYDIAN LETTER AcBcGcDcEcVcIcYcKcLcMcNcOcRcSScTcUcFcQcScTTcANcENcLYcNNcC@1093F",
   "bTRIANGULAR MARK@10980aMEROITIC HIEROGLYPHIC LETTER AdEdIdOdYAdWAdBAdBA-2dPAdMAdNAdNA-2dNE",
   "dNE-2dRAdRA-2dLAdKHAdHHAdSAdSA-2dSEdKAdQAdTAdTA-2dTEdTE-2dTOdDAcSYMBOL VIDJdVIDJ-2",
   "bCURSIVE LETTER AdEdIdOdYAdWAdBAdPAdMAdNAdNEdRAdLAdKHAdHHAdSAdARCHAIC~dSEdKAdQAdTAdTEdTOdDA",
   "@109BCcFRACTION ELEVEN TWELFTHSdONE HALFcLOGOGRAM RMTdIMNcNUMBER ONEdTWOdTHREEdFOURdFIVEdSIX",
   "dSEVENdEIGHTdNINEdTENdTWENTYdTHIRTYdFORTYdFIFTYdSIXTYdSEVENTY@109D2dONE HUNDREDdTWO~dTHREE~",
   "dFOUR~dFIVE~dSIX~dSEVEN~dEIGHT~dNINE~dONE THOUSANDdTWO~dTHREE~dFOUR~dFIVE~dSIX~dSEVEN~dEIGHT~",
   "dNINE~dTEN~dTWENTY~dTHIRTY~dFORTY~dFIFTY~dSIXTY~dSEVENTY~dEIGHTY~dNINETY~dONE HUNDRED~dTWO~~",
   "dTHREE~~dFOUR~~dFIVE~~dSIX~~dSEVEN~~dEIGHT~~dNINE~~cFRACTION ONE TWELFTHdTWO TWELFTHSdTHREE~",
   "dFOUR~dFIVE~dSIX~dSEVEN~dEIGHT~dNINE~dTEN~aKHAROSHTHI LETTER AbVOWEL SIGN IdUdVOCALIC R@10A05",
   "dEdO@10A0CcLENGTH MARKbSIGN DOUBLE RING BELOWcANUSVARAcVISARGAbLETTER KAcKHAcGAcGHA@10A15cCA",
   "cCHAcJA@10A19cNYAcTTAcTTHAcDDAcDDHAcNNAcTAcTHAcDAcDHAcNAcPAcPHAcBAcBHAcMAcYAcRAcLAcVAcSHAcSSA",
   "cSAcZAcHAcKKAcTTTHAcTTTAcVHA@10A38bSIGN BAR ABOVEcCAUDAcDOT BELOW@10A3FbVIRAMAbDIGIT ONEcTWO",
   "cTHREEcFOURbNUMBER TENcTWENTYcONE HUNDREDdTHOUSANDbFRACTION ONE HALF@10A50bPUNCTUATION DOT",
   "cSMALL CIRCLEc~cCRESCENT BARcMANGALAMcLOTUScDANDAcDOUBLE~cLINES@10A60",
   "aOLD SOUTH ARABIAN LETTER HEeLAMEDHeHETHeMEMeQOPHeWAWeSHINeRESHeBETHeTAWeSATeKAPHeNUNeKHETH",
   "eSADHEeSAMEKHeFEeALEFeAYNeDHADHEeGIMELeDALETHeGHAYNeTETHeZAYNeDHALETHeYODHeTHAWeTHETH",
   "dNUMBER ONEeFIFTYdNUMERIC INDICATORbNORTH ARABIAN LETTER HEHeLAMeHAHeMEEMeQAFeWAWeES-2eREHeBEH",
   "eTEHeES-1eKAFeNOONeKHAHeSADeES-3eFEHeALEFeAINeDADeGEEMeDALeGHAINeTAHeZAINeTHALeYEHeTHEHeZAH",
   "dNUMBER ONEeTENeTWENTY@10AC0aMANICHAEAN LETTER ALEPHcBETHcBHETHcGIMELcGHIMELcDALETHcHEcWAW",
   "bSIGN UDbLETTER ZAYINcZHAYINcJAYINcJHAYINcHETHcTETHcYODHcKAPHcXAPHcKHAPHcLAMEDHcDHAMEDH",
   "cTHAMEDHcMEMcNUNcSAMEKHcAYINcAAYINcPEcFEcSADHEcQOPHcXOPHcQHOPHcRESHcSHINcSSHINcTAW",
   "bABBREVIATION MARK ABOVEdBELOW@10AEBbNUMBER ONEcFIVEcTENcTWENTYcONE HUNDREDbPUNCTUATION STAR",
   "cFLEURONcDOUBLE DOT WITHIN DOTc~~~dcTWO DOTScLINE FILLER@10B00aAVESTAN LETTER AcAAcAOcAAOcAN",
   "cAANcAEcAEEcEcEEcOcOOcIcIIcUcUUcKEcXEcXYEcXVEcGEcGGEcGHEcCEcJEcTEcTHEcDEcDHEcTTEcPEcFEcBEcBHE",
   "cNGEcNGYEcNGVEcNEcNYEcNNEcMEcHMEcYYEcYEcVEcREcLEcSEcZEcSHEcZHEcSHYEcSSHEcHE@10B39",
   "bABBREVIATION MARKaTINY TWO DOTS OVER ONE DOT PUNCTUATIONaSMALL~~~~~~aLARGE~~~~~~",
   "bONE DOT OVER TWO DOTS~bTWO RINGS OVER ONE RING~bONE RING OVER TWO RINGS~",
   "aINSCRIPTIONAL PARTHIAN LETTER ALEPHdBETHdGIMELdDALETHdHEdWAWdZAYINdHETHdTETHdYODHdKAPHdLAMEDH",
   "dMEMdNUNdSAMEKHdAYINdPEdSADHEdQOPHdRESHdSHINdTAW@10B58cNUMBER ONEdTWOdTHREEdFOURdTENdTWENTY",
   "dONE HUNDREDeTHOUSANDbPAHLAVI LETTER ALEPHdBETHdGIMELdDALETHdHEdWAW-AYIN-RESHdZAYINdHETHdTETH",
   "dYODHdKAPHdLAMEDHdMEM-QOPHdNUNdSAMEKHdPEdSADHEdSHINdTAW@10B78cNUMBER ONEdTWOdTHREEdFOURdTEN",
   "dTWENTYdONE HUNDREDeTHOUSANDaPSALTER PAHLAVI LETTER ALEPHdBETHdGIMELdDALETHdHEdWAW-AYIN-RESH",
   "dZAYINdHETHdYODHdKAPHdLAMEDHdMEM-QOPHdNUNdSAMEKHdPEdSADHEdSHINdTAW@10B99cSECTION MARKcTURNED~~",
   "cFOUR DOTS WITH CROSSfDOT@10BA9cNUMBER ONEdTWOdTHREEdFOURdTENdTWENTYdONE HUNDRED@10C00",
   "aOLD TURKIC LETTER ORKHON AdYENISEI~eAEdORKHON IdYENISEI~eEdORKHON OeOEdYENISEI~dORKHON AB",
   "dYENISEI~dORKHON AEBdYENISEI~dORKHON AGdYENISEI~dORKHON AEGdYENISEI~dORKHON ADdYENISEI~",
   "dORKHON AEDeEZdYENISEI~dORKHON AYdYENISEI~dORKHON AEYdYENISEI~dORKHON AEKdYENISEI~dORKHON OEK",
   "dYENISEI~dORKHON ALdYENISEI~dORKHON AELeELTeEMeANeAENdYENISEI~dORKHON ENTdYENISEI~dORKHON ENC",
   "dYENISEI~dORKHON ENYdYENISEI~eANGdORKHON ENGdYENISEI AENGdORKHON EPeOPeICeECdYENISEI~",
   "dORKHON AQdYENISEI~dORKHON IQdYENISEI~dORKHON OQdYENISEI~dORKHON ARdYENISEI~dORKHON AEReASeAES",
   "eASHdYENISEI~dORKHON ESHdYENISEI~dORKHON ATdYENISEI~dORKHON AETdYENISEI~dORKHON OTeBASH@10C80",
   "bHUNGARIAN CAPITAL LETTER AeAAeEBeAMBeECeENCeECSeEDeANDeEeCLOSE~eEEeEFeEGeEGYeEHeIeIIeEJeEKeAK",
   "eUNKeELeELYeEMeENeENYeOeOOeNIKOLSBURG OEeRUDIMENTA~eOEEeEPeEMPeEReSHORT~eESeESZeETeENTeETYeECH",
   "eUeUUeNIKOLSBURG UEeRUDIMENTA~eEVeEZeEZSeENT-SHAPED SIGNeUS@10CC0cSMALL LETTER AeAAeEBeAMBeEC",
   "eENCeECSeEDeANDeEeCLOSE~eEEeEFeEGeEGYeEHeIeIIeEJeEKeAKeUNKeELeELYeEMeENeENYeOeOOeNIKOLSBURG OE",
   "eRUDIMENTA~eOEEeEPeEMPeEReSHORT~eESeESZeETeENTeETYeECHeUeUUeNIKOLSBURG UEeRUDIMENTA~eEVeEZeEZS",
   "eENT-SHAPED SIGNeUS@10CFAcNUMBER ONEdFIVEdTENdFIFTYdONE HUNDREDeTHOUSAND",
   "aHANIFI ROHINGYA LETTER AdBAdPAdTAdTTAdJAdCAdHAdKHAdFAdDAdDDAdRAdRRAdZAdSAdSHAdKAdGAdLAdMAdNA",
   "dWAdKINNA~dYAdKINNA~dNGAdNYAdVAcVOWEL AdIdUdEdOcMARK SAKINdNA KHONNAcSIGN HARBAHAYdTAHALAdTANA",
   "dTASSI@10D30cDIGIT ZEROdONEdTWOdTHREEdFOURdFIVEdSIXdSEVENdEIGHTdNINE@10E60aRUMI DIGIT ONEcTWO",
   "cTHREEcFOURcFIVEcSIXcSEVENcEIGHTcNINEbNUMBER TENcTWENTYcTHIRTYcFORTYcFIFTYcSIXTYcSEVENTY",
   "cEIGHTYcNINETYcONE HUNDREDcTWO~cTHREE~cFOUR~cFIVE~cSIX~cSEVEN~cEIGHT~cNINE~bFRACTION ONE HALF",
   "dQUARTERdTHIRDcTWO THIRDS@10E80aYEZIDI LETTER ELIFcBEcPEcPHEcTHEcSEcCIMcCHIMcCHHIMcHHAcXAcDAL",
   "cZALcRAcRHAcZAcJAcSINcSHINcSADcDADcTAcZEcEYNcXHEYNcFAcVAdALTERNATE FORMcQAFcKAFcKHAFcGAFcLAM",
   "cMIMcNUNcUMcWAWcOWcEWcHAYcYOTcET@10EABbCOMBINING HAMZA MARKcMADDA~bHYPHENATION~@10EB0",
   "bLETTER LAM WITH DOT ABOVEcYOT WITH CIRCUMFLEX~@10EFDaARABIC SMALL LOW WORD SAKTAeQASReMADDA",
   "aOLD SOGDIAN LETTER ALEPHdFINAL~dBETHdFINAL~dGIMELdHEdFINAL~dWAWdZAYINdHETHdYODHdKAPHdLAMEDH",
   "dMEMdNUNdFINAL~fWITH VERTICAL TAILdSAMEKHdAYINdALTERNATE~dPEdSADHEdFINAL~fWITH VERTICAL TAIL",
   "dRESH-AYIN-DALETHdSHINdTAWdFINAL~fWITH VERTICAL TAILcNUMBER ONEdTWOdTHREEdFOURdFIVEdTENdTWENTY",
   "dTHIRTYdONE HUNDREDcFRACTION ONE HALFcLIGATURE AYIN-DALETH@10F30aSOGDIAN LETTER ALEPHcBETH",
   "cGIMELcHEcWAWcZAYINcHETHcYODHcKAPHcLAMEDHcMEMcNUNcSAMEKHcAYINcPEcSADHEcRESH-AYINcSHINcTAWcFETH",
   "cLESHbINDEPENDENT SHINbCOMBINING DOT BELOWcTWO DOTS~cDOT ABOVEcTWO DOTS~cCURVE~dBELOW",
   "cHOOK ABOVEdBELOWcLONG~~cRESH~cSTROKE~bNUMBER ONEcTENcTWENTYcONE HUNDRED",
   "bPUNCTUATION TWO VERTICAL BARSfWITH DOTScCIRCLE WITH DOTcTWO CIRCLES WITH DOTS",
   "cHALF CIRCLE WITH DOT@10F70aOLD UYGHUR LETTER ALEPHdBETHdGIMEL-HETHdWAWdZAYINdFINAL HETHdYODH",
   "dKAPHdLAMEDHdMEMdNUNdSAMEKHdPEdSADHEdRESHdSHINdTAWdLESHcCOMBINING DOT ABOVEeBELOW",
   "dTWO DOTS ABOVEfBELOWcPUNCTUATION BARdTWO BARSeDOTSdFOUR~@10FB0aCHORASMIAN LETTER ALEPHcSMALL~",
   "cBETHcGIMELcDALETHcHEcWAWcCURLED~cZAYINcHETHcYODHcKAPHcLAMEDHcMEMcNUNcSAMEKHcAYINcPEcRESHcSHIN",
   "cTAWbNUMBER ONEcTWOcTHREEcFOURcTENcTWENTYcONE HUNDRED@10FE0aELYMAIC LETTER ALEPHcBETHcGIMEL",
   "cDALETHcHEcWAWcZAYINcHETHcTETHcYODHcKAPHcLAMEDHcMEMcNUNcSAMEKHcAYINcPEcSADHEcQOPHcRESHcSHIN",
   "cTAWbLIGATURE ZAYIN-YODH@11000aBRAHMI SIGN CANDRABINDUcANUSVARAcVISARGAcJIHVAMULIYA",
   "cUPADHMANIYAbLETTER AcAAcIcIIcUcUUcVOCALIC RdRRdLdLLcEcAIcOcAUcKAcKHAcGAcGHAcNGAcCAcCHAcJAcJHA",
   "cNYAcTTAcTTHAcDDAcDDHAcNNAcTAcTHAcDAcDHAcNAcPAcPHAcBAcBHAcMAcYAcRAcLAcVAcSHAcSSAcSAcHAcLLA",
   "cOLD TAMIL LLLAeRRAeNNNAbVOWEL SIGN AAdBHATTIPROLU~dIdIIdUdUUdVOCALIC ReRReLeLLdEdAIdOdAU",
   "bVIRAMAbDANDAbDOUBLE~bPUNCTUATION DOTcDOUBLE~cLINEcCRESCENT BARcLOTUS@11052bNUMBER ONEcTWO",
   "cTHREEcFOURcFIVEcSIXcSEVENcEIGHTcNINEcTENcTWENTYcTHIRTYcFORTYcFIFTYcSIXTYcSEVENTYcEIGHTY",
   "cNINETYcONE HUNDREDdTHOUSANDbDIGIT ZEROcONEcTWOcTHREEcFOURcFIVEcSIXcSEVENcEIGHTcNINE",
   "bSIGN OLD TAMIL VIRAMAbLETTER OLD TAMIL SHORT EfObVOWEL SIGN OLD TAMIL SHORT EgO",
   "bLETTER OLD TAMIL LLA@1107FbNUMBER JOINERaKAITHI SIGN CANDRABINDUcANUSVARAcVISARGAbLETTER AcAA",
   "cIcIIcUcUUcEcAIcOcAUcKAcKHAcGAcGHAcNGAcCAcCHAcJAcJHAcNYAcTTAcTTHAcDDAcDDDHAcDDHAcRHAcNNAcTA",
   "cTHAcDAcDHAcNAcPAcPHAcBAcBHAcMAcYAcRAcLAcVAcSHAcSSAcSAcHAbVOWEL SIGN AAdIdIIdUdUUdEdAIdOdAU",
   "bSIGN VIRAMAcNUKTAbABBREVIATION SIGNbENUMERATION~bNUMBER~bSECTION MARKbDOUBLE~~bDANDAbDOUBLE~",
   "bVOWEL SIGN VOCALIC R@110CDbNUMBER SIGN ABOVE@110D0aSORA SOMPENG LETTER SAHdTAHdBAHdCAHdDAH",
   "dGAHdMAHdNGAHdLAHdNAHdVAHdPAHdYAHdRAHdHAHdKAHdJAHdNYAHdAHdEEHdIHdUHdOHdEHdMAE@110F0cDIGIT ZERO",
   "dONEdTWOdTHREEdFOURdFIVEdSIXdSEVENdEIGHTdNINE@11100aCHAKMA SIGN CANDRABINDUcANUSVARAcVISARGA",
   "bLETTER AAcIcUcEcKAAcKHAAcGAAcGHAAcNGAAcCAAcCHAAcJAAcJHAAcNYAAcTTAAcTTHAAcDDAAcDDHAAcNNAAcTAA",
   "cTHAAcDAAcDHAAcNAAcPAAcPHAAcBAAcBHAAcMAAcYYAAcYAAcRAAcLAAcWAAcSAAcHAAbVOWEL SIGN AdIdIIdUdUUdE",
   "dAIdOdAUdOIbO MARKbAU~bVIRAMAbMAAYYAA@11136bDIGIT ZEROcONEcTWOcTHREEcFOURcFIVEcSIXcSEVENcEIGHT",
   "cNINEbSECTION MARKbDANDAbDOUBLE~bQUESTION MARKbLETTER LHAAbVOWEL SIGN AAdEIbLETTER VAA@11150",
   "aMAHAJANI LETTER AcIcUcEcOcKAcKHAcGAcGHAcCAcCHAcJAcJHAcNYAcTTAcTTHAcDDAcDDHAcNNAcTAcTHAcDAcDHA",
   "cNAcPAcPHAcBAcBHAcMAcRAcLAcVAcSAcHAcRRAbSIGN NUKTAbABBREVIATION SIGNbSECTION MARK",
   "bLIGATURE SHRI@11180aSHARADA SIGN CANDRABINDUcANUSVARAcVISARGAbLETTER AcAAcIcIIcUcUUcVOCALIC R",
   "dRRdLdLLcEcAIcOcAUcKAcKHAcGAcGHAcNGAcCAcCHAcJAcJHAcNYAcTTAcTTHAcDDAcDDHAcNNAcTAcTHAcDAcDHAcNA",
   "cPAcPHAcBAcBHAcMAcYAcRAcLAcLLAcVAcSHAcSSAcSAcHAbVOWEL SIGN AAdIdIIdUdUUdVOCALIC ReRReLeLLdEdAI",
   "dOdAUbSIGN VIRAMAcAVAGRAHAcJIHVAMULIYAcUPADHMANIYAbOMbDANDAbDOUBLE~bABBREVIATION SIGN",
   "bSEPARATORbSANDHI MARKbSIGN NUKTAbVOWEL MODIFIER MARKbEXTRA SHORT VOWEL~bSUTRA~",
   "bVOWEL SIGN PRISHTHAMATRA EbSIGN INVERTED CANDRABINDUbDIGIT ZEROcONEcTWOcTHREEcFOURcFIVEcSIX",
   "cSEVENcEIGHTcNINEbEKAMbSIGN SIDDHAMbHEADSTROKEbCONTINUATION SIGNbSECTION MARK-1+1@111E1",
   "aSINHALA ARCHAIC DIGIT ONEdTWOdTHREEdFOURdFIVEdSIXdSEVENdEIGHTdNINEcNUMBER TENdTWENTYdTHIRTY",
   "dFORTYdFIFTYdSIXTYdSEVENTYdEIGHTYdNINETYdONE HUNDREDeTHOUSAND@11200aKHOJKI LETTER AcAAcIcUcE",
   "cAIcOcAUcKAcKHAcGAcGGAcGHAcNGAcCAcCHAcJAcJJA@11213cNYAcTTAcTTHAcDDAcDDHAcNNAcTAcTHAcDAcDDDA",
   "cDHAcNAcPAcPHAcBAcBBAcBHAcMAcYAcRAcLAcVAcSAcHAcLLAbVOWEL SIGN AAdIdIIdUdEdAIdOdAU",
   "bSIGN ANUSVARAcVIRAMAcNUKTAcSHADDAbDANDAbDOUBLE~bWORD SEPARATORbSECTION MARKbDOUBLE~~",
   "bABBREVIATION SIGNbSIGN SUKUNbLETTER QAcSHORT IbVOWEL SIGN VOCALIC R@11280aMULTANI LETTER AcI",
   "cUcEcKAcKHAcGA@11288cGHA@1128AcCAcCHAcJAcJJA@1128FcNYAcTTAcTTHAcDDAcDDDAcDDHAcNNAcTAcTHAcDA",
   "cDHAcNAcPAcPHAcBA@1129FcBHAcMAcYAcRAcLAcVAcSAcHAcRRAcRHAbSECTION MARK@112B0aKHUDAWADI LETTER A",
   "cAAcIcIIcUcUUcEcAIcOcAUcKAcKHAcGAcGGAcGHAcNGAcCAcCHAcJAcJJAcJHAcNYAcTTAcTTHAcDDAcDDDAcRRAcDDHA",
   "cNNAcTAcTHAcDAcDHAcNAcPAcPHAcBAcBBAcBHAcMAcYAcRAcLAcVAcSHAcSAcHAbSIGN ANUSVARAbVOWEL SIGN AAdI",
   "dIIdUdUUdEdAIdOdAUbSIGN NUKTAcVIRAMA@112F0bDIGIT ZEROcONEcTWOcTHREEcFOURcFIVEcSIXcSEVENcEIGHT",
   "cNINE@11300aGRANTHA SIGN COMBINING ANUSVARA ABOVEcCANDRABINDUcANUSVARAcVISARGA@11305bLETTER A",
   "cAAcIcIIcUcUUcVOCALIC RdL@1130FcEEcAI@11313cOOcAUcKAcKHAcGAcGHAcNGAcCAcCHAcJAcJHAcNYAcTTAcTTHA",
   "cDDAcDDHAcNNAcTAcTHAcDAcDHAcNA@1132AcPAcPHAcBAcBHAcMAcYAcRA@11332cLAcLLA@11335cVAcSHAcSSAcSA",
   "cHA@1133BaCOMBINING BINDU BELOWaGRANTHA SIGN NUKTAcAVAGRAHAbVOWEL SIGN AAdIdIIdUdUUdVOCALIC R",
   "eRR@11347dEEdAI@1134BdOOdAUbSIGN VIRAMA@11350bOM@11357bAU LENGTH MARK@1135DbSIGN PLUTA",
   "bLETTER VEDIC ANUSVARAdDOUBLE~cVOCALIC RRdLLbVOWEL SIGN VOCALIC LeLL@11366",
   "aCOMBINING GRANTHA DIGIT ZEROdONEdTWOdTHREEdFOURdFIVEdSIX@11370cLETTER AdKAdNAdVIdPA@11400",
   "aNEWA LETTER AcAAcIcIIcUcUUcVOCALIC RdRRdLdLLcEcAIcOcAUcKAcKHAcGAcGHAcNGAcNGHAcCAcCHAcJAcJHA",
   "cNYAcNYHAcTTAcTTHAcDDAcDDHAcNNAcTAcTHAcDAcDHAcNAcNHAcPAcPHAcBAcBHAcMAcMHAcYAcRAcRHAcLAcLHAcWA",
   "cSHAcSSAcSAcHAbVOWEL SIGN AAdIdIIdUdUUdVOCALIC ReRReLeLLdEdAIdOdAUbSIGN VIRAMAcCANDRABINDU",
   "cANUSVARAcVISARGAcNUKTAcAVAGRAHAcFINAL ANUSVARAbOMbSIDDHIbDANDAbDOUBLE~bCOMMAbGAP FILLER",
   "bABBREVIATION SIGNbDIGIT ZEROcONEcTWOcTHREEcFOURcFIVEcSIXcSEVENcEIGHTcNINEbDOUBLE COMMA",
   "bPLACEHOLDER MARK@1145DbINSERTION SIGNbSANDHI MARKbLETTER VEDIC ANUSVARAbSIGN JIHVAMULIYA",
   "cUPADHMANIYA@11480aTIRHUTA ANJIbLETTER AcAAcIcIIcUcUUcVOCALIC RdRRdLdLLcEcAIcOcAUcKAcKHAcGA",
   "cGHAcNGAcCAcCHAcJAcJHAcNYAcTTAcTTHAcDDAcDDHAcNNAcTAcTHAcDAcDHAcNAcPAcPHAcBAcBHAcMAcYAcRAcLAcVA",
   "cSHAcSSAcSAcHAbVOWEL SIGN AAdIdIIdUdUUdVOCALIC ReRReLeLLdEdSHORT~dAIdOdSHORT~dAU",
   "bSIGN CANDRABINDUcANUSVARAcVISARGAcVIRAMAcNUKTAcAVAGRAHAbGVANGbABBREVIATION SIGNbOM@114D0",
   "bDIGIT ZEROcONEcTWOcTHREEcFOURcFIVEcSIXcSEVENcEIGHTcNINE@11580aSIDDHAM LETTER AcAAcIcIIcUcUU",
   "cVOCALIC RdRRdLdLLcEcAIcOcAUcKAcKHAcGAcGHAcNGAcCAcCHAcJAcJHAcNYAcTTAcTTHAcDDAcDDHAcNNAcTAcTHA",
   "cDAcDHAcNAcPAcPHAcBAcBHAcMAcYAcRAcLAcVAcSHAcSSAcSAcHAbVOWEL SIGN AAdIdIIdUdUUdVOCALIC ReRR",
   "@115B8dEdAIdOdAUbSIGN CANDRABINDUcANUSVARAcVISARGAcVIRAMAcNUKTAcSIDDHAMbDANDAbDOUBLE~",
   "bSEPARATOR DOTcBARbREPETITION MARK-1+2bEND OF TEXT MARK",
   "bSECTION MARK WITH TRIDENT AND U-SHAPED ORNAMENTSgDOTTED CRESCENTSeRAYS~~~hDOUBLE~hTRIPLE~",
   "dDOUBLE RINGfWITH RAYSdWITH DOUBLE CRESCENTSeTRIPLE~eQUADRUPLE~eSEPTUPLE~eCIRCLES AND RAYS",
   "gTWO ENCLOSURESgFOUR~bLETTER THREE-CIRCLE ALTERNATE IcTWO-CIRCLE~~eIIcALTERNATE UbVOWEL SIGN~~",
   "eUU@11600aMODI LETTER AcAAcIcIIcUcUUcVOCALIC RdRRdLdLLcEcAIcOcAUcKAcKHAcGAcGHAcNGAcCAcCHAcJA",
   "cJHAcNYAcTTAcTTHAcDDAcDDHAcNNAcTAcTHAcDAcDHAcNAcPAcPHAcBAcBHAcMAcYAcRAcLAcVAcSHAcSSAcSAcHAcLLA",
   "bVOWEL SIGN AAdIdIIdUdUUdVOCALIC ReRReLeLLdEdAIdOdAUbSIGN ANUSVARAcVISARGAcVIRAMAcARDHACANDRA",
   "bDANDAbDOUBLE~bABBREVIATION SIGNbSIGN HUVA@11650bDIGIT ZEROcONEcTWOcTHREEcFOURcFIVEcSIXcSEVEN",
   "cEIGHTcNINE@11660aMONGOLIAN BIRGA WITH ORNAMENTbROTATED BIRGAbDOUBLE BIRGA WITH ORNAMENT",
   "bTRIPLE~~~bBIRGA WITH DOUBLE~bROTATED BIRGA WITH~eDOUBLE~bINVERTED BIRGAdWITH DOUBLE ORNAMENT",
   "bSWIRL BIRGAdWITH ORNAMENTeDOUBLE~bTURNED~~~~~@11680aTAKRI LETTER AcAAcIcIIcUcUUcEcAIcOcAUcKA",
   "cKHAcGAcGHAcNGAcCAcCHAcJAcJHAcNYAcTTAcTTHAcDDAcDDHAcNNAcTAcTHAcDAcDHAcNAcPAcPHAcBAcBHAcMAcYA",
   "cRAcLAcVAcSHAcSAcHAcRRAbSIGN ANUSVARAcVISARGAbVOWEL SIGN AAdIdIIdUdUUdEdAIdOdAUbSIGN VIRAMA",
   "cNUKTAbLETTER ARCHAIC KHAbABBREVIATION SIGN@116C0bDIGIT ZEROcONEcTWOcTHREEcFOURcFIVEcSIXcSEVEN",
   "cEIGHTcNINE@11700aAHOM LETTER KAcKHAcNGAcNAcTAcALTERNATE~cPAcPHAcBAcMAcJAcCHAcTHAcRAcLAcSAcNYA",
   "cHAcAcDAcDHAcGAcALTERNATE~cGHAcBHAcJHAcALTERNATE BA@1171DbCONSONANT SIGN MEDIAL LAeRA",
   "eLIGATING~bVOWEL SIGN AdAAdIdIIdUdUUdEdAWdOdAIdAMbSIGN KILLER@11730bDIGIT ZEROcONEcTWOcTHREE",
   "cFOURcFIVEcSIXcSEVENcEIGHTcNINEbNUMBER TENcTWENTYbSIGN SMALL SECTIONc~cRULAIbSYMBOL VI",
   "bLETTER CAcTTAcTTHAcDDAcDDHAcNNAcLLA@11800aDOGRA LETTER AcAAcIcIIcUcUUcEcAIcOcAUcKAcKHAcGAcGHA",
   "cNGAcCAcCHAcJAcJHAcNYAcTTAcTTHAcDDAcDDHAcNNAcTAcTHAcDAcDHAcNAcPAcPHAcBAcBHAcMAcYAcRAcLAcVAcSHA",
   "cSSAcSAcHAcRRAbVOWEL SIGN AAdIdIIdUdUUdVOCALIC ReRRdEdAIdOdAUbSIGN ANUSVARAcVISARGAcVIRAMA",
   "cNUKTAbABBREVIATION SIGN@118A0aWARANG CITI CAPITAL LETTER NGAAeAeWIeYUeYAeYOeIIeUUeEeOeANGeGA",
   "eKOeENYeYUJeUCeENNeODDeTTEeNUNGeDAeATeAMeBUePUeHIYOeHOLOeHORReHAReSSUUeSIIeVIYO",
   "cSMALL LETTER NGAAeAeWIeYUeYAeYOeIIeUUeEeOeANGeGAeKOeENYeYUJeUCeENNeODDeTTEeNUNGeDAeATeAMeBU",
   "ePUeHIYOeHOLOeHORReHAReSSUUeSIIeVIYOcDIGIT ZEROdONEdTWOdTHREEdFOURdFIVEdSIXdSEVENdEIGHTdNINE",
   "cNUMBER TENdTWENTYdTHIRTYdFORTYdFIFTYdSIXTYdSEVENTYdEIGHTYdNINETY@118FFcOM",
   "aDIVES AKURU LETTER AdAAdIdIIdUdUUdE@11909dO@1190CdKAdKHAdGAdGHAdNGAdCAdCHAdJA@11915dNYAdTTA",
   "@11918dDDAdDDHAdNNAdTAdTHAdDAdDHAdNAdPAdPHAdBAdBHAdMAdYAdYYAdRAdLAdVAdSHAdSSAdSAdHAdLLAdZA",
   "cVOWEL SIGN AAeIeIIeUeUUeE@11937eAIeO@1193BcSIGN ANUSVARAdCANDRABINDUdHALANTAcVIRAMA",
   "cPREFIXED NASAL SIGNcMEDIAL YAcINITIAL RAcMEDIAL~cSIGN NUKTAcDOUBLE DANDAcGAP FILLER",
   "cEND OF TEXT MARK@11950cDIGIT ZEROdONEdTWOdTHREEdFOURdFIVEdSIXdSEVENdEIGHTdNINE@119A0",
   "aNANDINAGARI LETTER AcAAcIcIIcUcUUcVOCALIC RdRR@119AAcEcAIcOcAUcKAcKHAcGAcGHAcNGAcCAcCHAcJA",
   "cJHAcNYAcTTAcTTHAcDDAcDDHAcNNAcTAcTHAcDAcDHAcNAcPAcPHAcBAcBHAcMAcYAcRAcLAcVAcSHAcSSAcSAcHAcLLA",
   "cRRAbVOWEL SIGN AAdIdIIdUdUUdVOCALIC ReRR@119DAdEdAIdOdAUbSIGN ANUSVARAcVISARGAcVIRAMA",
   "cAVAGRAHAcSIDDHAMbHEADSTROKEbVOWEL SIGN PRISHTHAMATRA E@11A00aZANABAZAR SQUARE LETTER A",
   "cVOWEL SIGN IeUEeUeEeOEeOeAIeAUeREVERSED IdLENGTH MARKcLETTER KAdKHAdGAdGHAdNGAdCAdCHAdJAdNYA",
   "dTTAdTTHAdDDAdDDHAdNNAdTAdTHAdDAdDHAdNAdPAdPHAdBAdBHAdMAdTSAdTSHAdDZAdDZHAdZHAdZAd-AdYAdRAdLA",
   "dVAdSHAdSSAdSAdHAdKSSAcFINAL CONSONANT MARKcSIGN VIRAMAdCANDRABINDUeWITH ORNAMENTdCANDRA~~",
   "dANUSVARAdVISARGAcCLUSTER-INITIAL LETTER RAcCLUSTER-FINAL LETTER YAeRAeLAeVAcINITIAL HEAD MARK",
   "cCLOSING~~cMARK TSHEGdSHADdDOUBLE~dLONG TSHEGcINITIAL DOUBLE-LINED HEAD MARKcCLOSING~~~",
   "cSUBJOINER@11A50aSOYOMBO LETTER AbVOWEL SIGN IdUEdUdEdOdOEdAIdAUdVOCALIC ReLcLENGTH MARK",
   "bLETTER KAcKHAcGAcGHAcNGAcCAcCHAcJAcJHAcNYAcTTAcTTHAcDDAcDDHAcNNAcTAcTHAcDAcDHAcNAcPAcPHAcBA",
   "cBHAcMAcTSAcTSHAcDZAcZHAcZAc-AcYAcRAcLAcVAcSHAcSSAcSAcHAcKSSAbSIGN JIHVAMULIYAcUPADHMANIYA",
   "bCLUSTER-INITIAL LETTER RAdLAdSHAdSAbFINAL CONSONANT SIGN GeKeNGeDeNeBeMeReLeSHeSe-A",
   "bSIGN ANUSVARAcVISARGAbGEMINATION MARKbSUBJOINERbMARK TSHEGcSHADcDOUBLE~cPLUTA",
   "bHEAD MARK WITH MOON AND SUN AND TRIPLE FLAMEi~hbTERMINAL MARK-1+1@11AB0",
   "aCANADIAN SYLLABICS NATTILIK HIdHIIdHOdHOOdHAdHAAdSHRIdSHRIIdSHROdSHROOdSHRAdSHRAAcSPEcSPIcSPO",
   "cSPAaPAU CIN HAU LETTER PAeKAeLAeMAeDAeZAeVAeNGAeHAeGAeKHAeSAeBAeCAeTAeTHAeNAePHAeRAeFAeCHAeA",
   "eEeIeOeUeUAeIAeFINAL PfKfTfMfNfLfWfNGfYdRISING TONE LONGfdSANDHI GLOTTAL STOP",
   "dRISING TONE LONG FINALf~dSANDHI GLOTTAL STOP~eTONE LONGffLONG FINALf~dMID-LEVEL TONE",
   "dGLOTTAL STOP VARIANTdMID-LEVEL TONE LONG FINALf~dLOW-FALLING TONE LONGfdGLOTTAL STOP",
   "dLOW-FALLING TONE LONG FINALf~dGLOTTAL STOP~@11B00aDEVANAGARI HEAD MARKdWITH HEADSTROKE",
   "bSIGN BHALEdWITH HOOKcEXTENDED BHALEeWITH HOOKcWESTERN FIVE-LIKE BHALEdNINE-LIKE~cREVERSED~~",
   "cMINDU@11C00aBHAIKSUKI LETTER AcAAcIcIIcUcUUcVOCALIC RdRRdL@11C0AcEcAIcOcAUcKAcKHAcGAcGHAcNGA",
   "cCAcCHAcJAcJHAcNYAcTTAcTTHAcDDAcDDHAcNNAcTAcTHAcDAcDHAcNAcPAcPHAcBAcBHAcMAcYAcRAcLAcVAcSHAcSSA",
   "cSAcHAbVOWEL SIGN AAdIdIIdUdUUdVOCALIC ReRReL@11C38dEdAIdOdAUbSIGN CANDRABINDUcANUSVARA",
   "cVISARGAcVIRAMAcAVAGRAHAbDANDAbDOUBLE~bWORD SEPARATORbGAP FILLER-1+1@11C50bDIGIT ZEROcONEcTWO",
   "cTHREEcFOURcFIVEcSIXcSEVENcEIGHTcNINEbNUMBER ONEcTWOcTHREEcFOURcFIVEcSIXcSEVENcEIGHTcNINEcTEN",
   "cTWENTYcTHIRTYcFORTYcFIFTYcSIXTYcSEVENTYcEIGHTYcNINETYbHUNDREDS UNIT MARK@11C70aMARCHEN HEAD~",
   "bMARK SHADbLETTER KAcKHAcGAcNGAcCAcCHAcJAcNYAcTAcTHAcDAcNAcPAcPHAcBAcMAcTSAcTSHAcDZAcWAcZHAcZA",
   "c-AcYAcRAcLAcSHAcSAcHAcA@11C92bSUBJOINED LETTER KAdKHAdGAdNGAdCAdCHAdJAdNYAdTAdTHAdDAdNAdPA",
   "dPHAdBAdMAdTSAdTSHAdDZAdWAdZHAdZA@11CA9dYAdRAdLAdSHAdSAdHAdAbVOWEL SIGN AAdIdUdEdO",
   "bSIGN ANUSVARAcCANDRABINDU@11D00aMASARAM GONDI LETTER AdAAdIdIIdUdUUdE@11D08dAIdO@11D0BdAUdKA",
   "dKHAdGAdGHAdNGAdCAdCHAdJAdJHAdNYAdTTAdTTHAdDDAdDDHAdNNAdTAdTHAdDAdDHAdNAdPAdPHAdBAdBHAdMAdYA",
   "dRAdLAdVAdSHAdSSAdSAdHAdLLAdKSSAdJNYAdTRAcVOWEL SIGN AAeIeIIeUeUUeVOCALIC R@11D3AeE@11D3CeAIeO",
   "@11D3FeAUcSIGN ANUSVARAdVISARGAdNUKTAdCANDRAdHALANTAcVIRAMAcREPHAcRA-KARA@11D50cDIGIT ZEROdONE",
   "dTWOdTHREEdFOURdFIVEdSIXdSEVENdEIGHTdNINE@11D60aGUNJALA GONDI LETTER AdAAdIdIIdUdUU@11D67dEE",
   "dAI@11D6AdOOdAUdYAdVAdBAdBHAdMAdKAdKHAdTAdTHAdLAdGAdGHAdDAdDHAdNAdCAdCHAdTTAdTTHAdLLAdJAdJHA",
   "dDDAdDDHAdNGAdPAdPHAdHAdRAdSAcVOWEL SIGN AAeIeIIeUeUU@11D90eEEeAI@11D93eOOeAUcSIGN ANUSVARA",
   "dVISARGAcVIRAMAcOM@11DA0cDIGIT ZEROdONEdTWOdTHREEdFOURdFIVEdSIXdSEVENdEIGHTdNINE@11EE0",
   "aMAKASAR LETTER KAcGAcNGAcPAcBAcMAcTAcDAcNAcCAcJAcNYAcYAcRAcLAcVAcSAcAbANGKAbVOWEL SIGN IdUdE",
   "dObPASSIMBANGbEND OF SECTION@11F00aKAWI SIGN CANDRABINDUcANUSVARAcREPHAcVISARGAbLETTER AcAAcI",
   "cIIcUcUUcVOCALIC RdRRdLdLLcEcAIcO@11F12cKAcKHAcGAcGHAcNGAcCAcCHAcJAcJHAcNYAcTTAcTTHAcDDAcDDHA",
   "cNNAcTAcTHAcDAcDHAcNAcPAcPHAcBAcBHAcMAcYAcRAcLAcWAcSHAcSSAcSAcHAcJNYAbVOWEL SIGN AAdALTERNATE~",
   "dIdIIdUdUUdVOCALIC R@11F3EdEdAIdEUbSIGN KILLERbCONJOINERbDANDAbDOUBLE~",
   "bPUNCTUATION SECTION MARKERcALTERNATE~~cFLOWERcSPACE FILLERcDOTcDOUBLE~cTRIPLE~cCIRCLEcFILLED~",
   "cSPIRALcCLOSING~bDIGIT ZEROcONEcTWOcTHREEcFOURcFIVEcSIXcSEVENcEIGHTcNINE@11FB0aLISU LETTER YHA",
   "@11FC0aTAMIL FRACTION ONE THREE-HUNDRED-AND-TWENTIETHdONE-HUNDRED-AND-SIXTIETHdEIGHTIETH",
   "dSIXTY-FOURTHdFORTIETHdTHIRTY-SECONDcTHREE EIGHTIETHSdSIXTY-FOURTHScONE TWENTIETHdSIXTEENTH-1",
   "+1dTENTHdEIGHTHcTHREE TWENTIETHSdSIXTEENTHScONE FIFTHdQUARTERdHALF-1+1cTHREE QUARTERS",
   "cDOWNSCALING FACTOR KIIZHbSIGN NELcCEVITUcAAZHAAKKUcUZHAKKUcMUUVUZHAKKUcKURUNIcPATHAKKU",
   "cMUKKURUNIcKAACUcPANAMcPONcVARAAKANcPAARAMcKUZHIcVELIbWET CULTIVATION SIGNbDRY~~bLAND~",
   "bSALT PAN~bTRADITIONAL CREDIT~cNUMBER~bCURRENT~bAND ODD~bSPENT~bTOTAL~bIN POSSESSION~",
   "bSTARTING FROM~bSIGN MUTHALIYAcVAKAIYARAA@11FFFbPUNCTUATION END OF TEXT"]

end ClassSchema.Text.CharacterName
