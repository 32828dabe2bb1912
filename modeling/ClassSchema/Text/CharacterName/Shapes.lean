/-!
# Character names: shapes

The part of the table of character names from U+2500 to U+2BFF: lines, boxes, Braille, geometric
shapes and more arrows.
-/

namespace ClassSchema.Text.CharacterName

/-- The names of lines, boxes, Braille, geometric shapes and more arrows. -/
def shapes : List String :=
  ["@2500aBOX DRAWINGS LIGHT HORIZONTALcHEAVY~cLIGHT VERTICALcHEAVY~cLIGHT TRIPLE DASH HORIZONTAL",
   "cHEAVY~~~cLIGHT TRIPLE DASH VERTICALcHEAVY~~~cLIGHT QUADRUPLE DASH HORIZONTALcHEAVY~~~",
   "cLIGHT QUADRUPLE DASH VERTICALcHEAVY~~~cLIGHT DOWN AND RIGHTcDOWN LIGHT AND RIGHT HEAVY",
   "dHEAVY AND RIGHT LIGHTcHEAVY DOWN AND RIGHTcLIGHT DOWN AND LEFTcDOWN LIGHT AND LEFT HEAVY",
   "dHEAVY AND LEFT LIGHTcHEAVY DOWN AND LEFTcLIGHT UP AND RIGHTcUP LIGHT AND RIGHT HEAVY",
   "dHEAVY AND RIGHT LIGHTcHEAVY UP AND RIGHTcLIGHT UP AND LEFTcUP LIGHT AND LEFT HEAVY",
   "dHEAVY AND LEFT LIGHTcHEAVY UP AND LEFTcLIGHT VERTICAL AND RIGHT",
   "cVERTICAL LIGHT AND RIGHT HEAVYcUP HEAVY AND RIGHT DOWN LIGHTcDOWN HEAVY AND RIGHT UP~",
   "cVERTICAL HEAVY AND RIGHT~cDOWN LIGHT AND RIGHT UP HEAVYcUP LIGHT AND RIGHT DOWN~",
   "cHEAVY VERTICAL AND RIGHTcLIGHT VERTICAL AND LEFTcVERTICAL LIGHT AND LEFT HEAVY",
   "cUP HEAVY AND LEFT DOWN LIGHTcDOWN HEAVY AND LEFT UP~cVERTICAL HEAVY AND LEFT~",
   "cDOWN LIGHT AND LEFT UP HEAVYcUP LIGHT AND LEFT DOWN~cHEAVY VERTICAL AND LEFT",
   "cLIGHT DOWN AND HORIZONTALcLEFT HEAVY AND RIGHT DOWN LIGHTcRIGHT HEAVY AND LEFT~~",
   "cDOWN LIGHT AND HORIZONTAL HEAVYdHEAVY AND HORIZONTAL LIGHTcRIGHT LIGHT AND LEFT DOWN HEAVY",
   "cLEFT LIGHT AND RIGHT~~cHEAVY DOWN AND HORIZONTALcLIGHT UP~~cLEFT HEAVY AND RIGHT UP LIGHT",
   "cRIGHT HEAVY AND LEFT~~cUP LIGHT AND HORIZONTAL HEAVYdHEAVY AND HORIZONTAL LIGHT",
   "cRIGHT LIGHT AND LEFT UP HEAVYcLEFT LIGHT AND RIGHT~~cHEAVY UP AND HORIZONTALcLIGHT VERTICAL~~",
   "cLEFT HEAVY AND RIGHT VERTICAL LIGHTcRIGHT HEAVY AND LEFT~~",
   "cVERTICAL LIGHT AND HORIZONTAL HEAVYcUP HEAVY AND DOWN HORIZONTAL LIGHTcDOWN HEAVY AND UP~~",
   "cVERTICAL HEAVY AND~~cLEFT UP HEAVY AND RIGHT DOWN~cRIGHT UP HEAVY AND LEFT~~",
   "cLEFT DOWN HEAVY AND RIGHT UP~cRIGHT DOWN HEAVY AND LEFT~~cDOWN LIGHT AND UP HORIZONTAL HEAVY",
   "cUP LIGHT AND DOWN~~cRIGHT LIGHT AND LEFT VERTICAL~cLEFT LIGHT AND RIGHT~~",
   "cHEAVY VERTICAL AND HORIZONTALcLIGHT DOUBLE DASH~cHEAVY~~~cLIGHT DOUBLE DASH VERTICALcHEAVY~~~",
   "cDOUBLE HORIZONTALdVERTICALcDOWN SINGLE AND RIGHT DOUBLEdDOUBLE AND RIGHT SINGLE",
   "cDOUBLE DOWN AND RIGHTcDOWN SINGLE AND LEFT DOUBLEdDOUBLE AND LEFT SINGLEcDOUBLE DOWN AND LEFT",
   "cUP SINGLE AND RIGHT DOUBLEdDOUBLE AND RIGHT SINGLEcDOUBLE UP AND RIGHT",
   "cUP SINGLE AND LEFT DOUBLEdDOUBLE AND LEFT SINGLEcDOUBLE UP AND LEFT",
   "cVERTICAL SINGLE AND RIGHT DOUBLEdDOUBLE AND RIGHT SINGLEcDOUBLE VERTICAL AND RIGHT",
   "cVERTICAL SINGLE AND LEFT DOUBLEdDOUBLE AND LEFT SINGLEcDOUBLE VERTICAL AND LEFT",
   "cDOWN SINGLE AND HORIZONTAL DOUBLEdDOUBLE AND HORIZONTAL SINGLEcDOUBLE DOWN AND HORIZONTAL",
   "cUP SINGLE AND HORIZONTAL DOUBLEdDOUBLE AND HORIZONTAL SINGLEcDOUBLE UP AND HORIZONTAL",
   "cVERTICAL SINGLE AND HORIZONTAL DOUBLEdDOUBLE AND HORIZONTAL SINGLE",
   "cDOUBLE VERTICAL AND HORIZONTALcLIGHT ARC DOWN AND RIGHTgLEFTeUP~~gRIGHT",
   "dDIAGONAL UPPER RIGHT TO LOWER LEFTfLEFT TO LOWER RIGHTeCROSSdLEFTdUPdRIGHTdDOWNcHEAVY LEFTdUP",
   "dRIGHTdDOWNcLIGHT LEFT AND HEAVY RIGHTdUP AND HEAVY DOWNcHEAVY LEFT AND LIGHT RIGHT",
   "dUP AND LIGHT DOWNaUPPER HALF BLOCKaLOWER ONE EIGHTH~cQUARTER~bTHREE EIGHTHS~bHALF~",
   "bFIVE EIGHTHS~bTHREE QUARTERS~bSEVEN EIGHTHS~aFULL~aLEFT SEVEN EIGHTHS~bTHREE QUARTERS~",
   "bFIVE EIGHTHS~bHALF~bTHREE EIGHTHS~bONE QUARTER~cEIGHTH~aRIGHT HALF~aLIGHT SHADEaMEDIUM~aDARK~",
   "aUPPER ONE EIGHTH BLOCKaRIGHT~~~aQUADRANT LOWER LEFTcRIGHTbUPPER LEFT",
   "dAND LOWER LEFT AND LOWER RIGHTf~eUPPER RIGHT AND LOWER LEFTiRIGHTc~dAND LOWER LEFT",
   "gAND LOWER RIGHTaBLACK SQUAREaWHITE~cWITH ROUNDED CORNERScCONTAINING BLACK SMALL SQUARE",
   "aSQUARE WITH HORIZONTAL FILLcVERTICAL~cORTHOGONAL CROSSHATCH~cUPPER LEFT TO LOWER RIGHT~",
   "dRIGHT TO LOWER LEFT~cDIAGONAL CROSSHATCH~aBLACK SMALL SQUAREaWHITE~~aBLACK RECTANGLEaWHITE~",
   "aBLACK VERTICAL~aWHITE~~aBLACK PARALLELOGRAMaWHITE~aBLACK UP-POINTING TRIANGLEaWHITE~~",
   "aBLACK UP-POINTING SMALL~aWHITE~~~aBLACK RIGHT-POINTING~aWHITE~~aBLACK RIGHT-POINTING SMALL~",
   "aWHITE~~~aBLACK RIGHT-POINTING POINTERaWHITE~~aBLACK DOWN-POINTING TRIANGLEaWHITE~~",
   "aBLACK DOWN-POINTING SMALL~aWHITE~~~aBLACK LEFT-POINTING~aWHITE~~aBLACK LEFT-POINTING SMALL~",
   "aWHITE~~~aBLACK LEFT-POINTING POINTERaWHITE~~aBLACK DIAMONDaWHITE~",
   "cCONTAINING BLACK SMALL DIAMONDaFISHEYEaLOZENGEaWHITE CIRCLEaDOTTED~aCIRCLE WITH VERTICAL FILL",
   "aBULLSEYEaBLACK CIRCLEaCIRCLE WITH LEFT HALF BLACKcRIGHT~~cLOWER~~cUPPER~~dRIGHT QUADRANT~",
   "cALL BUT UPPER LEFT~~aLEFT HALF BLACK CIRCLEaRIGHT~~~aINVERSE BULLETbWHITE CIRCLE",
   "aUPPER HALF~~~aLOWER~~~~aUPPER LEFT QUADRANT CIRCULAR ARCbRIGHT~~~aLOWER~~~~bLEFT~~~",
   "aUPPER HALF CIRCLEaLOWER~~aBLACK LOWER RIGHT TRIANGLEcLEFT~bUPPER~~cRIGHT~aWHITE BULLET",
   "aSQUARE WITH LEFT HALF BLACKcRIGHT~~cUPPER LEFT DIAGONAL~~cLOWER RIGHT~~~",
   "aWHITE SQUARE WITH VERTICAL BISECTING LINEbUP-POINTING TRIANGLE WITH DOT",
   "aUP-POINTING TRIANGLE WITH LEFT HALF BLACKdRIGHT~~aLARGE CIRCLE",
   "aWHITE SQUARE WITH UPPER LEFT QUADRANTdLOWER~~eRIGHT~dUPPER~~bCIRCLE WITH UPPER LEFT~dLOWER~~",
   "eRIGHT~dUPPER~~aUPPER LEFT TRIANGLEbRIGHT~aLOWER LEFT~aWHITE MEDIUM SQUAREaBLACK~~",
   "aWHITE MEDIUM SMALL~aBLACK~~~aLOWER RIGHT TRIANGLEaBLACK SUN WITH RAYSaCLOUDaUMBRELLAaSNOWMAN",
   "aCOMETaBLACK STARaWHITE~aLIGHTNINGaTHUNDERSTORMaSUNaASCENDING NODEaDESCENDING~aCONJUNCTION",
   "aOPPOSITIONaBLACK TELEPHONEaWHITE~aBALLOT BOXcWITH CHECKdXaSALTIREaUMBRELLA WITH RAIN DROPS",
   "aHOT BEVERAGEaWHITE SHOGI PIECEaBLACK~~aSHAMROCKaREVERSED ROTATED FLORAL HEART BULLET",
   "aBLACK LEFT POINTING INDEXbRIGHT~~aWHITE LEFT~~bUP~~bRIGHT~~bDOWN~~aSKULL AND CROSSBONES",
   "aCAUTION SIGNaRADIOACTIVE~aBIOHAZARD~aCADUCEUSaANKHaORTHODOX CROSSaCHI RHOaCROSS OF LORRAINE",
   "cJERUSALEMaSTAR AND CRESCENTaFARSI SYMBOLaADI SHAKTIaHAMMER AND SICKLEaPEACE SYMBOLaYIN YANG",
   "aTRIGRAM FOR HEAVENcLAKEcFIREcTHUNDERcWINDcWATERcMOUNTAINcEARTHaWHEEL OF DHARMA",
   "aWHITE FROWNING FACEbSMILING~aBLACK~~aWHITE SUN WITH RAYSaFIRST QUARTER MOONaLAST~~aMERCURY",
   "aFEMALE SIGNaEARTHaMALE SIGNaJUPITERaSATURNaURANUSaNEPTUNEaPLUTOaARIESaTAURUSaGEMINIaCANCER",
   "aLEOaVIRGOaLIBRAaSCORPIUSaSAGITTARIUSaCAPRICORNaAQUARIUSaPISCESaWHITE CHESS KINGcQUEENcROOK",
   "cBISHOPcKNIGHTcPAWNaBLACK CHESS KINGcQUEENcROOKcBISHOPcKNIGHTcPAWNbSPADE SUITaWHITE HEART~",
   "bDIAMOND~aBLACK CLUB~aWHITE SPADE~aBLACK HEART~bDIAMOND~aWHITE CLUB~aHOT SPRINGSaQUARTER NOTE",
   "aEIGHTH~aBEAMED EIGHTH NOTESbSIXTEENTH~aMUSIC FLAT SIGNbNATURAL~bSHARP~aWEST SYRIAC CROSS",
   "aEAST~~aUNIVERSAL RECYCLING SYMBOLaRECYCLING SYMBOL FOR TYPE-1 PLASTICSdTYPE-2~dTYPE-3~",
   "dTYPE-4~dTYPE-5~dTYPE-6~dTYPE-7~dGENERIC MATERIALSaBLACK UNIVERSAL RECYCLING SYMBOL",
   "aRECYCLED PAPER~aPARTIALLY-RECYCLED~~aPERMANENT PAPER SIGNaWHEELCHAIR SYMBOLaDIE FACE-1+5",
   "aWHITE CIRCLE WITH DOT RIGHTdTWO DOTSaBLACK CIRCLE WITH WHITE DOT RIGHTdTWO WHITE DOTS",
   "aMONOGRAM FOR YANGcYINaDIGRAM FOR GREATER YANGcLESSER YINdYANGcGREATER YINaWHITE FLAGaBLACK~",
   "aHAMMER AND PICKaANCHORaCROSSED SWORDSaSTAFF OF AESCULAPIUSaSCALESaALEMBICaFLOWERaGEAR",
   "aSTAFF OF HERMESaATOM SYMBOLaFLEUR-DE-LISaOUTLINED WHITE STARaTHREE LINES CONVERGING RIGHT",
   "dLEFTaWARNING SIGNaHIGH VOLTAGE~aDOUBLED FEMALE~bMALE~aINTERLOCKED FEMALE AND~~",
   "aMALE AND FEMALE~bWITH STROKE~dAND MALE AND FEMALE~aVERTICAL MALE WITH STROKE~aHORIZONTAL~~~~",
   "aMEDIUM WHITE CIRCLEbBLACK~bSMALL WHITE~aMARRIAGE SYMBOLaDIVORCE~aUNMARRIED PARTNERSHIP~",
   "aCOFFINaFUNERAL URNaNEUTERaCERESaPALLASaJUNOaVESTAaCHIRONaBLACK MOON LILITHaSEXTILE",
   "aSEMISEXTILEaQUINCUNXaSESQUIQUADRATEaSOCCER BALLaBASEBALLaSQUARED KEYaWHITE DRAUGHTS MANcKING",
   "aBLACK DRAUGHTS MANcKINGaSNOWMAN WITHOUT SNOWaSUN BEHIND CLOUDaRAINaBLACK SNOWMAN",
   "aTHUNDER CLOUD AND RAINaTURNED WHITE SHOGI PIECEbBLACK~~aWHITE DIAMOND IN SQUARE",
   "aCROSSING LANESaDISABLED CARaOPHIUCHUSaPICKaCAR SLIDINGaHELMET WITH WHITE CROSS",
   "aCIRCLED CROSSING LANESaCHAINSaNO ENTRYaALTERNATE ONE-WAY LEFT WAY TRAFFICaBLACK TWO-WAY~~~",
   "aWHITE~~~~aBLACK LEFT LANE MERGEaWHITE~~~aDRIVE SLOW SIGNaHEAVY WHITE DOWN-POINTING TRIANGLE",
   "aLEFT CLOSED ENTRYaSQUARED SALTIREaFALLING DIAGONAL IN WHITE CIRCLE IN BLACK SQUARE",
   "aBLACK TRUCKaRESTRICTED LEFT ENTRY-1+1aASTRONOMICAL SYMBOL FOR URANUS",
   "aHEAVY CIRCLE WITH STROKE AND TWO DOTS ABOVEaPENTAGRAMaRIGHT-HANDED INTERLACED~aLEFT-HANDED~~",
   "aINVERTED~aBLACK CROSS ON SHIELDaSHINTO SHRINEaCHURCHaCASTLEaHISTORIC SITEaGEAR WITHOUT HUB",
   "bWITH HANDLESaMAP SYMBOL FOR LIGHTHOUSEaMOUNTAINaUMBRELLA ON GROUNDaFOUNTAINaFLAG IN HOLE",
   "aFERRYaSAILBOATaSQUARE FOUR CORNERSaSKIERaICE SKATEaPERSON WITH BALLaTENTaJAPANESE BANK SYMBOL",
   "aHEADSTONE GRAVEYARD~aFUEL PUMPaCUP ON BLACK SQUARE",
   "aWHITE FLAG WITH HORIZONTAL MIDDLE BLACK STRIPEaBLACK SAFETY SCISSORSaUPPER BLADE~aBLACK~",
   "aLOWER BLADE~aWHITE~bHEAVY CHECK MARKaTELEPHONE LOCATION SIGNaTAPE DRIVEaAIRPLANEaENVELOPE",
   "aRAISED FISTbHANDaVICTORY~aWRITING~aLOWER RIGHT PENCILa~aUPPER RIGHT~aWHITE NIBaBLACK~",
   "aCHECK MARKaHEAVY~~aMULTIPLICATION XaHEAVY~~aBALLOT~aHEAVY~~aOUTLINED GREEK CROSSaHEAVY~~",
   "aOPEN CENTRE~aHEAVY~~~aLATIN~aSHADOWED WHITE~~aOUTLINED~~aMALTESE~aSTAR OF DAVID",
   "aFOUR TEARDROP-SPOKED ASTERISKbBALLOON-SPOKED~aHEAVY~~~aFOUR CLUB-SPOKED~",
   "aBLACK FOUR POINTED STARaWHITE~~~aSPARKLESaSTRESS OUTLINED WHITE STARaCIRCLED~~",
   "aOPEN CENTRE BLACK~aBLACK CENTRE WHITE~aOUTLINED BLACK~aHEAVY~~~aPINWHEEL~aSHADOWED WHITE~",
   "aHEAVY ASTERISKaOPEN CENTRE~aEIGHT SPOKED~bPOINTED BLACK STARcPINWHEEL~aSIX POINTED BLACK~",
   "aEIGHT POINTED RECTILINEAR~~aHEAVY~~~~~aTWELVE POINTED~~aSIXTEEN POINTED ASTERISK",
   "aTEARDROP-SPOKED~aOPEN CENTRE~~aHEAVY~~aSIX PETALLED BLACK AND WHITE FLORETTEaBLACK~aWHITE~",
   "aEIGHT PETALLED OUTLINED BLACK~aCIRCLED OPEN CENTRE EIGHT POINTED STAR",
   "aHEAVY TEARDROP-SPOKED PINWHEEL ASTERISKaSNOWFLAKEaTIGHT TRIFOLIATE~aHEAVY CHEVRON~aSPARKLE",
   "aHEAVY~aBALLOON-SPOKED ASTERISKaEIGHT TEARDROP-SPOKED PROPELLER~aHEAVY~~~~aCROSS MARK",
   "aSHADOWED WHITE CIRCLEaNEGATIVE SQUARED CROSS MARKaLOWER RIGHT DROP-SHADOWED WHITE SQUARE",
   "aUPPER~~~~aLOWER RIGHT SHADOWED~~aUPPER~~~~aBLACK QUESTION MARK ORNAMENTaWHITE~~~",
   "bEXCLAMATION~~aBLACK DIAMOND MINUS WHITE XaHEAVY EXCLAMATION MARK SYMBOLaLIGHT VERTICAL BAR",
   "aMEDIUM~~aHEAVY~~bSINGLE TURNED COMMA QUOTATION MARK ORNAMENTc~~~~bDOUBLE TURNED~~~~c~~~~",
   "bLOW SINGLE~~~~cDOUBLE~~~~aCURVED STEM PARAGRAPH SIGN~aHEAVY EXCLAMATION MARK~bHEART~~~",
   "bBLACK HEARTaROTATED HEAVY BLACK HEART BULLETaFLORAL HEARTaROTATED FLORAL HEART BULLET",
   "aMEDIUM LEFT PARENTHESIS ORNAMENTbRIGHT~~bFLATTENED LEFT~~cRIGHT~~",
   "bLEFT-POINTING ANGLE BRACKET~bRIGHT-POINTING~~~aHEAVY LEFT-POINTING ANGLE QUOTATION MARK~",
   "bRIGHT-POINTING~~~~bLEFT-POINTING ANGLE BRACKET~bRIGHT-POINTING~~~aLIGHT LEFT TORTOISE SHELL~~",
   "bRIGHT~~~~aMEDIUM LEFT CURLY~~bRIGHT~~~aDINGBAT NEGATIVE CIRCLED DIGIT ONEeTWOeTHREEeFOUReFIVE",
   "eSIXeSEVENeEIGHTeNINEdNUMBER TENbCIRCLED SANS-SERIF DIGIT ONEeTWOeTHREEeFOUReFIVEeSIXeSEVEN",
   "eEIGHTeNINEdNUMBER TENbNEGATIVE CIRCLED SANS-SERIF DIGIT ONEfTWOfTHREEfFOURfFIVEfSIXfSEVEN",
   "fEIGHTfNINEeNUMBER TENaHEAVY WIDE-HEADED RIGHTWARDS ARROWbPLUS SIGNbMINUS~bDIVISION~",
   "bSOUTH EAST ARROWbRIGHTWARDS~bNORTH EAST~aDRAFTING POINT RIGHTWARDS~aHEAVY ROUND-TIPPED~~",
   "aTRIANGLE-HEADED~~aHEAVY~~~aDASHED~~~aHEAVY~~~~aBLACK~~",
   "aTHREE-D TOP-LIGHTED RIGHTWARDS ARROWHEADbBOTTOM-LIGHTED~~aBLACK~~",
   "aHEAVY BLACK CURVED DOWNWARDS AND RIGHTWARDS ARROWdUPWARDS~~~aSQUAT BLACK~~",
   "aHEAVY CONCAVE-POINTED~~~aRIGHT-SHADED WHITE~~aLEFT-SHADED~~~aBACK-TILTED SHADOWED~~~",
   "aFRONT-TILTED~~~~aHEAVY LOWER RIGHT-SHADOWED~~~bUPPER~~~~aNOTCHED LOWER~~~~aCURLY LOOP",
   "aNOTCHED UPPER RIGHT-SHADOWED WHITE RIGHTWARDS ARROWaCIRCLED HEAVY~~~aWHITE-FEATHERED~~",
   "aBLACK-FEATHERED SOUTH EAST~bRIGHTWARDS~bNORTH EAST~aHEAVY BLACK-FEATHERED SOUTH~~cRIGHTWARDS~",
   "cNORTH EAST~aTEARDROP-BARBED RIGHTWARDS~aHEAVY TEARDROP-SHANKED~~aWEDGE-TAILED~~aHEAVY~~~",
   "aOPEN-OUTLINED~~aDOUBLE CURLY LOOPaTHREE DIMENSIONAL ANGLE",
   "aWHITE TRIANGLE CONTAINING SMALL WHITE TRIANGLEaPERPENDICULARaOPEN SUBSETbSUPERSET",
   "aLEFT S-SHAPED BAG DELIMITERaRIGHT~~~aOR WITH DOT INSIDEaREVERSE SOLIDUS PRECEDING SUBSET",
   "aSUPERSET PRECEDING SOLIDUSaVERTICAL BAR WITH HORIZONTAL STROKEaMATHEMATICAL RISING DIAGONAL",
   "aLONG DIVISIONaMATHEMATICAL FALLING DIAGONALaSQUARED LOGICAL ANDcOR",
   "aWHITE DIAMOND WITH CENTRED DOTaAND WITH~aELEMENT OF OPENING UPWARDS",
   "aLOWER RIGHT CORNER WITH DOTaUPPER LEFT~~~aLEFT OUTER JOINaRIGHT~~aFULL~~aLARGE UP TACKbDOWN~",
   "aLEFT AND RIGHT DOUBLE TURNSTILEdTACKbMULTIMAPaLONG RIGHT TACKbLEFT~aUP TACK WITH CIRCLE ABOVE",
   "aLOZENGE DIVIDED BY HORIZONTAL RULEaWHITE CONCAVE-SIDED DIAMONDdWITH LEFTWARDS TICK",
   "eRIGHTWARDS~bSQUARE WITH LEFTWARDS~dRIGHTWARDS~aMATHEMATICAL LEFT WHITE SQUARE BRACKET",
   "bRIGHT~~~bLEFT ANGLE~bRIGHT~~bLEFT DOUBLE~~bRIGHT~~~bLEFT WHITE TORTOISE SHELL~bRIGHT~~~~",
   "bLEFT FLATTENED PARENTHESISbRIGHT~~aUPWARDS QUADRUPLE ARROWaDOWNWARDS~~",
   "aANTICLOCKWISE GAPPED CIRCLE~aCLOCKWISE~~~aRIGHT ARROW WITH CIRCLED PLUSaLONG LEFTWARDS ARROW",
   "bRIGHTWARDS~bLEFT RIGHT~bLEFTWARDS DOUBLE~bRIGHTWARDS~~bLEFT RIGHT~~bLEFTWARDS ARROW FROM BAR",
   "bRIGHTWARDS~~~bLEFTWARDS DOUBLE~~~bRIGHTWARDS~~~~cSQUIGGLE ARROWaBRAILLE PATTERN BLANKcDOTS-1",
   "+1cDOTS-12cDOTS-3cDOTS-13cDOTS-23cDOTS-123cDOTS-4cDOTS-14cDOTS-24cDOTS-124cDOTS-34cDOTS-134",
   "cDOTS-234cDOTS-1234cDOTS-5cDOTS-15cDOTS-25cDOTS-125cDOTS-35cDOTS-135cDOTS-235cDOTS-1235",
   "cDOTS-45cDOTS-145cDOTS-245cDOTS-1245cDOTS-345cDOTS-1345cDOTS-2345cDOTS-12345cDOTS-6cDOTS-16",
   "cDOTS-26cDOTS-126cDOTS-36cDOTS-136cDOTS-236cDOTS-1236cDOTS-46cDOTS-146cDOTS-246cDOTS-1246",
   "cDOTS-346cDOTS-1346cDOTS-2346cDOTS-12346cDOTS-56cDOTS-156cDOTS-256cDOTS-1256cDOTS-356",
   "cDOTS-1356cDOTS-2356cDOTS-12356cDOTS-456cDOTS-1456cDOTS-2456cDOTS-12456cDOTS-3456cDOTS-13456",
   "cDOTS-23456cDOTS-123456cDOTS-7cDOTS-17cDOTS-27cDOTS-127cDOTS-37cDOTS-137cDOTS-237cDOTS-1237",
   "cDOTS-47cDOTS-147cDOTS-247cDOTS-1247cDOTS-347cDOTS-1347cDOTS-2347cDOTS-12347cDOTS-57cDOTS-157",
   "cDOTS-257cDOTS-1257cDOTS-357cDOTS-1357cDOTS-2357cDOTS-12357cDOTS-457cDOTS-1457cDOTS-2457",
   "cDOTS-12457cDOTS-3457cDOTS-13457cDOTS-23457cDOTS-123457cDOTS-67cDOTS-167cDOTS-267cDOTS-1267",
   "cDOTS-367cDOTS-1367cDOTS-2367cDOTS-12367cDOTS-467cDOTS-1467cDOTS-2467cDOTS-12467cDOTS-3467",
   "cDOTS-13467cDOTS-23467cDOTS-123467cDOTS-567cDOTS-1567cDOTS-2567cDOTS-12567cDOTS-3567",
   "cDOTS-13567cDOTS-23567cDOTS-123567cDOTS-4567cDOTS-14567cDOTS-24567cDOTS-124567cDOTS-34567",
   "cDOTS-134567cDOTS-234567cDOTS-1234567cDOTS-8cDOTS-18cDOTS-28cDOTS-128cDOTS-38cDOTS-138",
   "cDOTS-238cDOTS-1238cDOTS-48cDOTS-148cDOTS-248cDOTS-1248cDOTS-348cDOTS-1348cDOTS-2348",
   "cDOTS-12348cDOTS-58cDOTS-158cDOTS-258cDOTS-1258cDOTS-358cDOTS-1358cDOTS-2358cDOTS-12358",
   "cDOTS-458cDOTS-1458cDOTS-2458cDOTS-12458cDOTS-3458cDOTS-13458cDOTS-23458cDOTS-123458cDOTS-68",
   "cDOTS-168cDOTS-268cDOTS-1268cDOTS-368cDOTS-1368cDOTS-2368cDOTS-12368cDOTS-468cDOTS-1468",
   "cDOTS-2468cDOTS-12468cDOTS-3468cDOTS-13468cDOTS-23468cDOTS-123468cDOTS-568cDOTS-1568cDOTS-2568",
   "cDOTS-12568cDOTS-3568cDOTS-13568cDOTS-23568cDOTS-123568cDOTS-4568cDOTS-14568cDOTS-24568",
   "cDOTS-124568cDOTS-34568cDOTS-134568cDOTS-234568cDOTS-1234568cDOTS-78cDOTS-178cDOTS-278",
   "cDOTS-1278cDOTS-378cDOTS-1378cDOTS-2378cDOTS-12378cDOTS-478cDOTS-1478cDOTS-2478cDOTS-12478",
   "cDOTS-3478cDOTS-13478cDOTS-23478cDOTS-123478cDOTS-578cDOTS-1578cDOTS-2578cDOTS-12578cDOTS-3578",
   "cDOTS-13578cDOTS-23578cDOTS-123578cDOTS-4578cDOTS-14578cDOTS-24578cDOTS-124578cDOTS-34578",
   "cDOTS-134578cDOTS-234578cDOTS-1234578cDOTS-678cDOTS-1678cDOTS-2678cDOTS-12678cDOTS-3678",
   "cDOTS-13678cDOTS-23678cDOTS-123678cDOTS-4678cDOTS-14678cDOTS-24678cDOTS-124678cDOTS-34678",
   "cDOTS-134678cDOTS-234678cDOTS-1234678cDOTS-5678cDOTS-15678cDOTS-25678cDOTS-125678cDOTS-35678",
   "cDOTS-135678cDOTS-235678cDOTS-1235678cDOTS-45678cDOTS-145678cDOTS-245678cDOTS-1245678",
   "cDOTS-345678cDOTS-1345678cDOTS-2345678cDOTS-12345678",
   "aRIGHTWARDS TWO-HEADED ARROW WITH VERTICAL STROKEeDOUBLE~~aLEFTWARDS DOUBLE ARROW WITH~~",
   "aRIGHTWARDS~~~~~aLEFT RIGHT~~~~~aRIGHTWARDS TWO-HEADED ARROW FROM BARaLEFTWARDS DOUBLE~~~",
   "aRIGHTWARDS~~~~aDOWNWARDS ARROW WITH HORIZONTAL STROKEaUPWARDS~~~~bTRIPLE ARROWaDOWNWARDS~~",
   "aLEFTWARDS DOUBLE DASH~aRIGHTWARDS~~~aLEFTWARDS TRIPLE~~aRIGHTWARDS~~~bTWO-HEADED~~~",
   "bARROW WITH DOTTED STEMaUPWARDS ARROW TO BARaDOWNWARDS~~~",
   "aRIGHTWARDS ARROW WITH TAIL WITH VERTICAL STROKEfDOUBLE~~bTWO-HEADED ARROW WITH TAIL",
   "fWITH VERTICAL STROKEgDOUBLE~~aLEFTWARDS ARROW-TAILaRIGHTWARDS~aLEFTWARDS DOUBLE~aRIGHTWARDS~~",
   "aLEFTWARDS ARROW TO BLACK DIAMONDaRIGHTWARDS~~~~aLEFTWARDS ARROW FROM BAR~~~aRIGHTWARDS~~~~~~",
   "aNORTH WEST AND SOUTH EAST ARROWbEAST AND SOUTH WEST~bWEST ARROW WITH HOOKbEAST~~~aSOUTH~~~~",
   "bWEST~~~aNORTH WEST ARROW AND NORTH EAST ARROWbEAST ARROW AND SOUTH~~",
   "aSOUTH EAST ARROW AND SOUTH WEST~bWEST ARROW AND NORTH~~",
   "aRISING DIAGONAL CROSSING FALLING DIAGONALaFALLING DIAGONAL CROSSING RISING~",
   "aSOUTH EAST ARROW CROSSING NORTH EAST ARROWaNORTH EAST ARROW CROSSING SOUTH~~",
   "aFALLING DIAGONAL CROSSING NORTH~~aRISING DIAGONAL CROSSING SOUTH~~",
   "aNORTH EAST ARROW CROSSING NORTH WEST~bWEST ARROW CROSSING NORTH EAST~",
   "aWAVE ARROW POINTING DIRECTLY RIGHTaARROW POINTING RIGHTWARDS THEN CURVING UPWARDSfDOWNWARDS",
   "cDOWNWARDS THEN CURVING LEFTWARDSfRIGHTWARDSaRIGHT-SIDE ARC CLOCKWISE ARROW",
   "aLEFT-SIDE ARC ANTICLOCKWISE~aTOP~~~aBOTTOM~~~aTOP ARC CLOCKWISE ARROW WITH MINUS",
   "cANTICLOCKWISE ARROW WITH PLUSaLOWER RIGHT SEMICIRCULAR CLOCKWISE ARROW",
   "bLEFT SEMICIRCULAR ANTICLOCKWISE~aANTICLOCKWISE CLOSED CIRCLE~aCLOCKWISE~~~",
   "aRIGHTWARDS ARROW ABOVE SHORT LEFTWARDS~aLEFTWARDS ARROW ABOVE SHORT RIGHTWARDS~",
   "aSHORT RIGHTWARDS ARROW ABOVE LEFTWARDS~aRIGHTWARDS ARROW WITH PLUS BELOWaLEFTWARDS~~~~",
   "aRIGHTWARDS ARROW THROUGH XaLEFT RIGHT ARROW THROUGH SMALL CIRCLE",
   "aUPWARDS TWO-HEADED ARROW FROM~~aLEFT BARB UP RIGHT BARB DOWN HARPOONcDOWN RIGHT BARB UP~",
   "aUP BARB RIGHT DOWN BARB LEFT~cLEFT DOWN BARB RIGHT~aLEFT BARB UP RIGHT BARB UP~",
   "aUP BARB RIGHT DOWN BARB RIGHT~aLEFT BARB DOWN RIGHT BARB DOWN~aUP BARB LEFT DOWN BARB LEFT~",
   "aLEFTWARDS HARPOON WITH BARB UP TO BARaRIGHTWARDS~~~~~~aUPWARDS HARPOON WITH BARB RIGHT~~",
   "aDOWNWARDS~~~~~~aLEFTWARDS HARPOON WITH BARB DOWN~~aRIGHTWARDS~~~~~~",
   "aUPWARDS HARPOON WITH BARB LEFT~~aDOWNWARDS~~~~~~aLEFTWARDS HARPOON WITH BARB UP FROM~",
   "aRIGHTWARDS~~~~~~aUPWARDS HARPOON WITH BARB RIGHT~~aDOWNWARDS~~~~~~",
   "aLEFTWARDS HARPOON WITH BARB DOWN~~aRIGHTWARDS~~~~~~aUPWARDS HARPOON WITH BARB LEFT~~",
   "aDOWNWARDS~~~~~~aLEFTWARDS HARPOON WITH BARB UP ABOVE LEFTWARDS HARPOON WITH BARB DOWN",
   "aUPWARDS HARPOON WITH BARB LEFT BESIDE UPWARDS HARPOON WITH BARB RIGHT",
   "aRIGHTWARDS HARPOON WITH BARB UP ABOVE RIGHTWARDS HARPOON WITH BARB DOWN",
   "aDOWNWARDS HARPOON WITH BARB LEFT BESIDE DOWNWARDS HARPOON WITH BARB RIGHT",
   "aLEFTWARDS HARPOON WITH BARB UP ABOVE RIGHTWARDS HARPOON WITH BARB UP",
   "eDOWN ABOVE RIGHTWARDS HARPOON WITH BARB DOWN",
   "aRIGHTWARDS HARPOON WITH BARB UP ABOVE LEFTWARDS HARPOON WITH BARB UP",
   "eDOWN ABOVE LEFTWARDS HARPOON WITH BARB DOWNaLEFTWARDS HARPOON WITH BARB UP ABOVE LONG DASH",
   "eDOWN BELOW~~aRIGHTWARDS HARPOON WITH BARB UP ABOVE~~eDOWN BELOW~~",
   "aUPWARDS HARPOON WITH BARB LEFT BESIDE DOWNWARDS HARPOON WITH BARB RIGHT",
   "aDOWNWARDS HARPOON WITH BARB LEFT BESIDE UPWARDS~~~~aRIGHT DOUBLE ARROW WITH ROUNDED HEAD",
   "aEQUALS SIGN ABOVE RIGHTWARDS ARROWaTILDE OPERATOR~~~aLEFTWARDS ARROW ABOVE TILDE OPERATOR",
   "aRIGHTWARDS~~~~dALMOST EQUAL TOaLESS-THAN ABOVE LEFTWARDS ARROW",
   "aLEFTWARDS ARROW THROUGH LESS-THANaGREATER-THAN ABOVE RIGHTWARDS ARROWaSUBSET~~~",
   "aLEFTWARDS ARROW THROUGH SUBSETaSUPERSET ABOVE LEFTWARDS ARROWaLEFT FISH TAILaRIGHT~~aUP~~",
   "aDOWN~~aTRIPLE VERTICAL BAR DELIMITERaZ NOTATION SPOTcTYPE COLONaLEFT WHITE CURLY BRACKET",
   "aRIGHT~~~aLEFT WHITE PARENTHESISaRIGHT~~aZ NOTATION LEFT IMAGE BRACKETcRIGHT~~cLEFT BINDING~",
   "cRIGHT~~aLEFT SQUARE BRACKET WITH UNDERBARaRIGHT~~~~",
   "aLEFT SQUARE BRACKET WITH TICK IN TOP CORNERaRIGHT SQUARE BRACKET WITH TICK IN BOTTOM~",
   "aLEFT~~~~~~~aRIGHT SQUARE BRACKET WITH TICK IN TOP~aLEFT ANGLE BRACKET WITH DOTaRIGHT~~~~",
   "aLEFT ARC LESS-THAN BRACKETaRIGHT ARC GREATER-THAN~aDOUBLE LEFT~~~bRIGHT ARC LESS-THAN~",
   "aLEFT BLACK TORTOISE SHELL~aRIGHT~~~~aDOTTED FENCEaVERTICAL ZIGZAG LINE",
   "aMEASURED ANGLE OPENING LEFTaRIGHT ANGLE VARIANT WITH SQUAREaMEASURED RIGHT ANGLE WITH DOT",
   "aANGLE WITH S INSIDEaACUTE ANGLEaSPHERICAL ANGLE OPENING LEFTdUPaTURNED ANGLEaREVERSED~",
   "aANGLE WITH UNDERBARaREVERSED~~~aOBLIQUE ANGLE OPENING UPdDOWN",
   "aMEASURED ANGLE WITH OPEN ARM ENDING IN ARROW POINTING UP AND RIGHTlLEFTjDOWN AND RIGHTlLEFT",
   "jRIGHT AND UPjLEFT~~jRIGHT AND DOWNjLEFT~~aREVERSED EMPTY SETaEMPTY SET WITH OVERBAR",
   "dSMALL CIRCLE ABOVEdRIGHT ARROW~dLEFT~~aCIRCLE WITH HORIZONTAL BARaCIRCLED VERTICAL~bPARALLEL",
   "bREVERSE SOLIDUSbPERPENDICULAR",
   "aCIRCLE DIVIDED BY HORIZONTAL BAR AND TOP HALF DIVIDED BY VERTICAL BARbWITH SUPERIMPOSED X",
   "aCIRCLED ANTICLOCKWISE-ROTATED DIVISION SIGNaUP ARROW THROUGH CIRCLEaCIRCLED WHITE BULLETb~",
   "bLESS-THANbGREATER-THANaCIRCLE WITH SMALL CIRCLE TO THE RIGHTcTWO HORIZONTAL STROKES~~~",
   "aSQUARED RISING DIAGONAL SLASHbFALLING~~bASTERISKbSMALL CIRCLEbSQUAREaTWO JOINED SQUARES",
   "aTRIANGLE WITH DOT ABOVEcUNDERBARaS IN TRIANGLEaTRIANGLE WITH SERIFS AT BOTTOM",
   "aRIGHT TRIANGLE ABOVE LEFT TRIANGLEaLEFT TRIANGLE BESIDE VERTICAL BAR",
   "aVERTICAL BAR BESIDE RIGHT TRIANGLEaBOWTIE WITH LEFT HALF BLACKcRIGHT~~aBLACK BOWTIE",
   "aTIMES WITH LEFT HALF BLACKcRIGHT~~aWHITE HOURGLASSaBLACK~aLEFT WIGGLY FENCEaRIGHT~~",
   "aLEFT DOUBLE~~aRIGHT~~~aINCOMPLETE INFINITYaTIE OVER~aINFINITY NEGATED WITH VERTICAL BAR",
   "aDOUBLE-ENDED MULTIMAPaSQUARE WITH CONTOURED OUTLINEaINCREASES ASaSHUFFLE PRODUCT",
   "aEQUALS SIGN AND SLANTED PARALLELfWITH TILDE ABOVEaIDENTICAL TO AND SLANTED PARALLEL",
   "aGLEICH STARKaTHERMODYNAMICaDOWN-POINTING TRIANGLE WITH LEFT HALF BLACKdRIGHT~~",
   "aBLACK DIAMOND WITH DOWN ARROWbLOZENGEaWHITE CIRCLE WITH DOWN ARROWaBLACK~~~~",
   "aERROR-BARRED WHITE SQUAREbBLACK~bWHITE DIAMONDbBLACK~bWHITE CIRCLEbBLACK~aRULE-DELAYED",
   "aREVERSE SOLIDUS OPERATORaSOLIDUS WITH OVERBARaREVERSE SOLIDUS WITH HORIZONTAL STROKE",
   "aBIG SOLIDUSbREVERSE~aDOUBLE PLUSaTRIPLE~aLEFT-POINTING CURVED ANGLE BRACKETaRIGHT-POINTING~~~",
   "aTINYaMINYaN-ARY CIRCLED DOT OPERATORcPLUS~cTIMES~bUNION OPERATOR WITH DOTePLUS",
   "bSQUARE INTERSECTION OPERATORcUNION~aTWO LOGICAL AND~cOR~aN-ARY TIMES~aMODULO TWO SUM",
   "aSUMMATION WITH INTEGRALaQUADRUPLE INTEGRAL OPERATORaFINITE PART INTEGRAL",
   "aINTEGRAL WITH DOUBLE STROKEbAVERAGE WITH SLASHaCIRCULATION FUNCTIONaANTICLOCKWISE INTEGRATION",
   "aLINE INTEGRATION WITH RECTANGULAR PATH AROUND POLEdSEMICIRCULAR~~~cNOT INCLUDING THE~",
   "aINTEGRAL AROUND A POINT OPERATORaQUATERNION INTEGRAL~aINTEGRAL WITH LEFTWARDS ARROW WITH HOOK",
   "cTIMES SIGNcINTERSECTIONcUNIONcOVERBARcUNDERBARaJOINaLARGE LEFT TRIANGLE OPERATOR",
   "aZ NOTATION SCHEMA COMPOSITIONdPIPINGdPROJECTIONaPLUS SIGN WITH SMALL CIRCLE ABOVE",
   "dCIRCUMFLEX ACCENT~dTILDE~dDOT BELOWdTILDE~dSUBSCRIPT TWOdBLACK TRIANGLE",
   "aMINUS SIGN WITH COMMA ABOVEdDOT BELOWdFALLING DOTSdRISING~aPLUS SIGN IN LEFT HALF CIRCLE",
   "dRIGHT~~aVECTOR OR CROSS PRODUCTaMULTIPLICATION SIGN WITH DOT ABOVEdUNDERBAR",
   "aSEMIDIRECT PRODUCT WITH BOTTOM CLOSEDaSMASH PRODUCTaMULTIPLICATION SIGN IN LEFT HALF CIRCLE",
   "dRIGHT~~aCIRCLED MULTIPLICATION SIGN WITH CIRCUMFLEX ACCENT",
   "aMULTIPLICATION SIGN IN DOUBLE CIRCLEaCIRCLED DIVISION SIGNaPLUS SIGN IN TRIANGLEaMINUS~~~",
   "aMULTIPLICATION~~~aINTERIOR PRODUCTaRIGHTHAND~~aZ NOTATION RELATIONAL COMPOSITION",
   "aAMALGAMATION OR COPRODUCTaINTERSECTION WITH DOTaUNION WITH MINUS SIGNcOVERBARaINTERSECTION~~",
   "cLOGICAL ANDaUNION WITH LOGICAL ORbABOVE INTERSECTIONaINTERSECTION ABOVE UNION",
   "aUNION ABOVE BAR ABOVE INTERSECTIONaINTERSECTION ABOVE BAR ABOVE UNION",
   "aUNION BESIDE AND JOINED WITH~aINTERSECTION BESIDE AND JOINED WITH INTERSECTION",
   "aCLOSED UNION WITH SERIFSbINTERSECTION~~aDOUBLE SQUARE INTERSECTIONcUNION",
   "aCLOSED UNION WITH SERIFS AND SMASH PRODUCTaLOGICAL AND WITH DOT ABOVEbOR~~~",
   "aDOUBLE LOGICAL ANDcORaTWO INTERSECTING LOGICAL ANDdORaSLOPING LARGE~cAND",
   "aLOGICAL OR OVERLAPPING LOGICAL~bAND WITH MIDDLE STEMbOR~~~bAND WITH HORIZONTAL DASHbOR~~~",
   "bAND WITH DOUBLE OVERBARdUNDERBARdDOUBLE~aSMALL VEE WITH~aLOGICAL OR WITH DOUBLE OVERBAR",
   "eUNDERBARaZ NOTATION DOMAIN ANTIRESTRICTIONcRANGE~aEQUALS SIGN WITH DOT BELOW",
   "aIDENTICAL WITH DOT ABOVEaTRIPLE HORIZONTAL BAR WITH DOUBLE VERTICAL STROKEeTRIPLE~~",
   "aTILDE OPERATOR WITH DOT ABOVEdRISING DOTSaSIMILAR MINUS SIMILARaCONGRUENT WITH DOT ABOVE",
   "aEQUALS WITH ASTERISKaALMOST EQUAL TO WITH CIRCUMFLEX ACCENTaAPPROXIMATELY EQUAL OR EQUAL TO",
   "aEQUALS SIGN ABOVE PLUS SIGNaPLUS SIGN ABOVE EQUALS~aEQUALS SIGN ABOVE TILDE OPERATOR",
   "aDOUBLE COLON EQUALaTWO CONSECUTIVE EQUALS SIGNSaTHREE~~~",
   "aEQUALS SIGN WITH TWO DOTS ABOVE AND TWO DOTS BELOWaEQUIVALENT WITH FOUR DOTS ABOVE",
   "aLESS-THAN WITH CIRCLE INSIDEaGREATER-THAN~~~aLESS-THAN WITH QUESTION MARK ABOVE",
   "aGREATER-THAN~~~~aLESS-THAN OR SLANTED EQUAL TOaGREATER-THAN~~~~",
   "aLESS-THAN OR SLANTED EQUAL TO WITH DOT INSIDEaGREATER-THAN~~~~~~~",
   "aLESS-THAN OR SLANTED EQUAL TO WITH DOT ABOVEaGREATER-THAN~~~~~~~",
   "aLESS-THAN OR SLANTED EQUAL TO WITH DOT ABOVE RIGHT",
   "aGREATER-THAN OR SLANTED EQUAL TO WITH DOT ABOVE LEFTaLESS-THAN OR APPROXIMATEaGREATER-THAN~~",
   "aLESS-THAN AND SINGLE-LINE NOT EQUAL TOaGREATER-THAN~~~~~aLESS-THAN AND NOT APPROXIMATE",
   "aGREATER-THAN~~~aLESS-THAN ABOVE DOUBLE-LINE EQUAL ABOVE GREATER-THAN",
   "aGREATER-THAN ABOVE DOUBLE-LINE EQUAL ABOVE LESS-THANaLESS-THAN ABOVE SIMILAR OR EQUAL",
   "aGREATER-THAN~~~~aLESS-THAN ABOVE SIMILAR ABOVE GREATER-THAN",
   "aGREATER-THAN ABOVE SIMILAR ABOVE LESS-THAN",
   "aLESS-THAN ABOVE GREATER-THAN ABOVE DOUBLE-LINE EQUALaGREATER-THAN ABOVE LESS-THAN~~~",
   "aLESS-THAN ABOVE SLANTED EQUAL ABOVE GREATER-THAN ABOVE SLANTED~",
   "aGREATER-THAN ABOVE SLANTED EQUAL ABOVE LESS-THAN~~~aSLANTED EQUAL TO OR LESS-THAN",
   "eGREATER-THANeLESS-THAN WITH DOT INSIDEeGREATER-THAN~~~aDOUBLE-LINE EQUAL TO OR LESS-THAN",
   "eGREATER-THANbSLANTED EQUAL TO OR LESS-THANfGREATER-THANaSIMILAR OR LESS-THANcGREATER-THAN",
   "bABOVE LESS-THAN ABOVE EQUALS SIGNcGREATER-THAN~~~aDOUBLE NESTED LESS-THANcGREATER-THAN",
   "cLESS-THAN WITH UNDERBARaGREATER-THAN OVERLAPPING LESS-THANbBESIDE~aLESS-THAN CLOSED BY CURVE",
   "aGREATER-THAN~~~aLESS-THAN CLOSED BY CURVE ABOVE SLANTED EQUALaGREATER-THAN~~~~~~aSMALLER THAN",
   "aLARGER~aSMALLER THAN OR EQUAL TOaLARGER~~~~aEQUALS SIGN WITH BUMPY ABOVE",
   "aPRECEDES ABOVE SINGLE-LINE EQUALS SIGNaSUCCEEDS~~~~aPRECEDES ABOVE SINGLE-LINE NOT EQUAL TO",
   "aSUCCEEDS~~~~~aPRECEDES ABOVE EQUALS SIGNaSUCCEEDS~~~aPRECEDES ABOVE NOT EQUAL TOaSUCCEEDS~~~~",
   "aPRECEDES ABOVE ALMOST~~aSUCCEEDS~~~~aPRECEDES ABOVE NOT~~~aSUCCEEDS~~~~~aDOUBLE PRECEDES",
   "bSUCCEEDSaSUBSET WITH DOTaSUPERSET~~aSUBSET WITH PLUS SIGN BELOWaSUPERSET~~~~",
   "aSUBSET WITH MULTIPLICATION~~aSUPERSET~~~~aSUBSET OF OR EQUAL TO WITH DOT ABOVE",
   "aSUPERSET~~~~~~~aSUBSET OF ABOVE EQUALS SIGNaSUPERSET~~~~aSUBSET OF ABOVE TILDE OPERATOR",
   "aSUPERSET~~~~aSUBSET OF ABOVE ALMOST EQUAL TOaSUPERSET~~~~~aSUBSET OF ABOVE NOT~~",
   "aSUPERSET~~~~~aSQUARE LEFT OPEN BOX OPERATORbRIGHT~~~aCLOSED SUBSETbSUPERSET",
   "bSUBSET OR EQUAL TObSUPERSET~~~aSUBSET ABOVE SUPERSETaSUPERSET ABOVE SUBSETaSUBSET~~",
   "aSUPERSET ABOVE SUPERSETbBESIDE SUBSETcAND JOINED BY DASH WITH~aELEMENT OF OPENING DOWNWARDS",
   "aPITCHFORK WITH TEE TOPaTRANSVERSAL INTERSECTIONaFORKINGaNONFORKINGaSHORT LEFT TACKbDOWN~bUP~",
   "aPERPENDICULAR WITH SaVERTICAL BAR TRIPLE RIGHT TURNSTILEaDOUBLE VERTICAL BAR LEFT~",
   "aVERTICAL BAR DOUBLE~~aDOUBLE~~~~~aLONG DASH FROM LEFT MEMBER OF DOUBLE VERTICAL",
   "aSHORT DOWN TACK WITH OVERBARbUP TACK WITH UNDERBARdABOVE SHORT DOWN TACKaDOUBLE~~bUP~",
   "bSTROKE NOT SIGNaREVERSED~~~~aDOES NOT DIVIDE WITH REVERSED NEGATION SLASH",
   "aVERTICAL LINE WITH CIRCLE ABOVEeBELOWaDOWN TACK~~~aPARALLEL WITH HORIZONTAL STROKE",
   "cTILDE OPERATORaTRIPLE VERTICAL BAR BINARY RELATIONdWITH HORIZONTAL STROKEbCOLON OPERATOR",
   "bNESTED LESS-THANcGREATER-THANaDOUBLE-LINE SLANTED LESS-THAN OR EQUAL TOcGREATER-THAN~~~",
   "aTRIPLE SOLIDUS BINARY RELATIONaLARGE TRIPLE VERTICAL BAR OPERATORaDOUBLE SOLIDUS~",
   "aWHITE VERTICAL BARaN-ARY~~~aNORTH EAST WHITE ARROWbWEST~~aSOUTH EAST~~bWEST~~aLEFT RIGHT~~",
   "aLEFTWARDS BLACK~aUPWARDS~~aDOWNWARDS~~aNORTH EAST~~bWEST~~aSOUTH EAST~~bWEST~~aLEFT RIGHT~~",
   "aUP DOWN~~aRIGHTWARDS ARROW WITH TIP DOWNWARDSeUPWARDSaLEFTWARDS ARROW WITH TIP DOWNWARDS",
   "eUPWARDSaSQUARE WITH TOP HALF BLACKcBOTTOM~~cUPPER RIGHT DIAGONAL~~cLOWER LEFT~~~",
   "aDIAMOND WITH LEFT~~cRIGHT~~cTOP~~cBOTTOM~~aDOTTED SQUAREaBLACK LARGE~aWHITE~~",
   "aBLACK VERY SMALL~aWHITE~~~aBLACK PENTAGONaWHITE~bHEXAGONaBLACK~aHORIZONTAL~~",
   "aBLACK LARGE CIRCLEbMEDIUM DIAMONDaWHITE~~aBLACK MEDIUM LOZENGEaWHITE~~aBLACK SMALL DIAMOND",
   "cLOZENGEaWHITE~~aBLACK HORIZONTAL ELLIPSEaWHITE~~aBLACK VERTICAL~aWHITE~~",
   "aLEFT ARROW WITH SMALL CIRCLEaTHREE LEFTWARDS ARROWSaLEFT ARROW WITH CIRCLED PLUS",
   "aLONG LEFTWARDS SQUIGGLE ARROWaLEFTWARDS TWO-HEADED ARROW WITH VERTICAL STROKEeDOUBLE~~",
   "dFROM BARcTRIPLE DASH ARROWbARROW WITH DOTTED STEMdTAIL WITH VERTICAL STROKEfDOUBLE~~",
   "bTWO-HEADED ARROW WITH TAILfWITH VERTICAL STROKEgDOUBLE~~bARROW THROUGH X",
   "aWAVE ARROW POINTING DIRECTLY LEFTaEQUALS SIGN ABOVE LEFTWARDS ARROWaREVERSE TILDE OPERATOR~~~",
   "aLEFTWARDS ARROW ABOVE REVERSE ALMOST EQUAL TOaRIGHTWARDS ARROW THROUGH GREATER-THANdSUPERSET",
   "aLEFTWARDS QUADRUPLE ARROWaRIGHTWARDS~~aREVERSE TILDE OPERATOR ABOVE RIGHTWARDS~",
   "aRIGHTWARDS ARROW ABOVE REVERSE ALMOST EQUAL TOaTILDE OPERATOR ABOVE LEFTWARDS ARROW",
   "aLEFTWARDS ARROW ABOVE ALMOST EQUAL TOdREVERSE TILDE OPERATORaRIGHTWARDS~~~~~",
   "aDOWNWARDS TRIANGLE-HEADED ZIGZAG ARROWaSHORT SLANTED NORTH~bBACKSLANTED SOUTH~",
   "aWHITE MEDIUM STARaBLACK SMALL~aWHITE~~aBLACK RIGHT-POINTING PENTAGONaWHITE~~",
   "aHEAVY LARGE CIRCLEbOVAL WITH OVAL INSIDEbCIRCLE WITH CIRCLE~cbCIRCLED SALTIRE",
   "aSLANTED NORTH ARROW WITH HOOKED HEADaBACKSLANTED SOUTH ARROW WITH HOOKED TAIL",
   "aSLANTED NORTH ARROW WITH HORIZONTAL~aBACKSLANTED SOUTH~~~~",
   "aBENT ARROW POINTING DOWNWARDS THEN NORTH EASTaSHORT~~~~~~~aLEFTWARDS TRIANGLE-HEADED ARROW",
   "aUPWARDS~~aRIGHTWARDS~~aDOWNWARDS~~aLEFT RIGHT~~aUP DOWN~~aNORTH WEST~~bEAST~~aSOUTH~~~bWEST~~",
   "aLEFTWARDS TRIANGLE-HEADED DASHED~aUPWARDS~~~aRIGHTWARDS~~~aDOWNWARDS~~~",
   "aCLOCKWISE TRIANGLE-HEADED OPEN CIRCLE~aANTICLOCKWISE~~~~",
   "aLEFTWARDS TRIANGLE-HEADED ARROW TO BARaUPWARDS~~~~aRIGHTWARDS~~~~aDOWNWARDS~~~~@2B76",
   "aNORTH WEST~~~~bEAST~~~~aSOUTH~~~~~bWEST~~~~",
   "aLEFTWARDS TRIANGLE-HEADED ARROW WITH DOUBLE HORIZONTAL STROKEaUPWARDS~~~~~~aRIGHTWARDS~~~~~~",
   "aDOWNWARDS~~~~~~aHORIZONTAL TAB KEYaVERTICAL~~",
   "aLEFTWARDS TRIANGLE-HEADED ARROW OVER RIGHTWARDS TRIANGLE-HEADED ARROW",
   "aUPWARDS TRIANGLE-HEADED ARROW LEFTWARDS OF DOWNWARDS~~",
   "aRIGHTWARDS TRIANGLE-HEADED ARROW OVER LEFTWARDS~~",
   "aDOWNWARDS TRIANGLE-HEADED ARROW LEFTWARDS OF UPWARDS~~",
   "aLEFTWARDS TRIANGLE-HEADED PAIRED ARROWSaUPWARDS~~~aRIGHTWARDS~~~aDOWNWARDS~~~",
   "aLEFTWARDS BLACK CIRCLED WHITE ARROWaUPWARDS~~~~aRIGHTWARDS~~~~aDOWNWARDS~~~~",
   "aANTICLOCKWISE TRIANGLE-HEADED RIGHT U-SHAPED~cBOTTOM~~cLEFT~~cTOP~~aRETURN LEFTbRIGHT",
   "aNEWLINE LEFTbRIGHTaFOUR CORNER ARROWS CIRCLING ANTICLOCKWISEaRIGHTWARDS BLACK ARROW@2B97",
   "aSYMBOL FOR TYPE A ELECTRONICSaTHREE-D TOP-LIGHTED LEFTWARDS EQUILATERAL ARROWHEAD",
   "bRIGHT-LIGHTED UPWARDS~~bTOP-LIGHTED RIGHTWARDS~~bLEFT-LIGHTED DOWNWARDS~~aBLACK LEFTWARDS~~",
   "bUPWARDS~~bRIGHTWARDS~~bDOWNWARDS~~aDOWNWARDS TRIANGLE-HEADED ARROW WITH LONG TIP LEFTWARDS",
   "gRIGHTWARDSaUPWARDS TRIANGLE-HEADED ARROW WITH LONG TIP LEFTWARDSgRIGHTWARDS",
   "aLEFTWARDS TRIANGLE-HEADED ARROW WITH LONG TIP UPWARDSaRIGHTWARDS~~~~~~",
   "aLEFTWARDS TRIANGLE-HEADED ARROW WITH LONG TIP DOWNWARDSaRIGHTWARDS~~~~~~",
   "aBLACK CURVED DOWNWARDS AND LEFTWARDS ARROWeRIGHTWARDS~cUPWARDS AND LEFTWARDS~eRIGHTWARDS~",
   "cLEFTWARDS AND UPWARDS~cRIGHTWARDS~~~cLEFTWARDS AND DOWNWARDS~cRIGHTWARDS~~~",
   "aRIBBON ARROW DOWN LEFTdRIGHTcUP LEFTdRIGHTcLEFT UPcRIGHT~cLEFT DOWNcRIGHT~",
   "aUPWARDS WHITE ARROW FROM BAR WITH HORIZONTAL BARaUP ARROWHEAD IN A RECTANGLE BOX",
   "aOVERLAPPING WHITE SQUAREScAND BLACK~b~~aBALLOT BOX WITH LIGHT XaCIRCLED~bBOLD~",
   "aBLACK SQUARE CENTREDbDIAMOND~aTURNED BLACK PENTAGONaHORIZONTAL BLACK OCTAGONa~~",
   "bMEDIUM UP-POINTING TRIANGLE CENTREDcDOWN-POINTING~~cLEFT-POINTING~~cRIGHT-POINTING~~",
   "aNEPTUNE FORM TWOaTOP HALF BLACK CIRCLEaBOTTOM~~~aLIGHT FOUR POINTED BLACK CUSPaROTATED~~~~~",
   "aWHITE FOUR POINTED~aROTATED~~~~aSQUARE POSITION INDICATORaUNCERTAINTY SIGNaGROUP MARK",
   "aPLUTO FORM TWOcTHREEcFOURcFIVEaTRANSPLUTOaPROSERPINAaASTRAEAaHYGIEAaPHOLUSaNESSUS",
   "aWHITE MOON SELENAaBLACK DIAMOND ON CROSSaTRUE LIGHT MOON ARTAaCUPIDOaHADESaZEUSaKRONOS",
   "aAPOLLONaADMETOSaVULCANUSaPOSEIDONaLEFT HALF BLACK STARaRIGHT~~~aSTAR WITH LEFT HALF BLACK",
   "cRIGHT~~aLEFTWARDS TWO-HEADED ARROW WITH TRIANGLE ARROWHEADSaUPWARDS~~~~~aRIGHTWARDS~~~~~",
   "aDOWNWARDS~~~~~aERIS FORM ONEcTWOaSEDNAaRUSSIAN ASTROLOGICAL SYMBOL VIGINTILEdNOVILEdQUINTILE",
   "dBINOVILEdSENTAGONdTREDECILEaEQUALS SIGN WITH INFINITY BELOWaUNITED SYMBOLaSEPARATED~aDOUBLED~",
   "aPASSED~aREVERSED RIGHT ANGLEaHELLSCHREIBER PAUSE SYMBOL"]

end ClassSchema.Text.CharacterName
